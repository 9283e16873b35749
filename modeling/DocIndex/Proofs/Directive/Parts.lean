import DocIndex.Directive
import DocIndex.Proofs.Text.Cut

/-!
Directives are read apart from each other: a comment is cut where one starts, and how a directive
ends does not matter to the next one. All that they list are names.
-/
namespace DocIndex.Directive

variable {isName : Text → Bool}

theorem isName_of_mem_listedNames {pieces : List Text} {name : Text}
    (h : name ∈ listedNames isName pieces) : isName name = true := by
  induction pieces with
  | nil => cases h
  | cons piece pieces ih =>
    rw [listedNames] at h
    split at h
    next hpiece =>
      rcases List.mem_cons.mp h with rfl | h
      · exact hpiece
      · exact ih h
    next => exact (Option.filter_eq_some_iff.mp (Option.mem_toList.mp h)).2

/-- Directives list names only. -/
theorem isName_of_mem_documentedNames {comment name : Text}
    (h : name ∈ documentedNames isName comment) : isName name = true := by
  obtain ⟨directive, -, hlisted⟩ := List.mem_flatMap.mp h
  exact isName_of_mem_listedNames hlisted

/-- A marker has one line break only, at its start, so no occurrence runs into a marker. -/
theorem cutAt_append (c d : Text) :
    Text.cutAt marker (c ++ (marker ++ d)) = Text.cutAt marker c ++ Text.cutAt marker d :=
  have hmark : '\n' ∉ "@docs ".toList := by decide
  Text.cutAt_append_marker hmark c d

variable (isName)

theorem documentedNames_of_not_infix {c : Text} (h : ¬ marker <:+: c) :
    documentedNames isName c = [] := by
  rw [documentedNames, Text.cutAt_of_not_infix h]
  rfl

/-- The names of a directive are added to those of the comment before it. -/
theorem documentedNames_append (c d : Text) :
    documentedNames isName (c ++ (marker ++ d)) =
      documentedNames isName c ++ documentedNames isName (marker ++ d) := by
  have hstart : Text.cutAt marker (marker ++ d) = [] :: Text.cutAt marker d := cutAt_append [] d
  rw [documentedNames, documentedNames, documentedNames, cutAt_append, hstart, List.tail_cons,
    List.tail_append_of_ne_nil (Text.cutAt_ne_nil marker c), List.flatMap_append]

theorem documentedNames_flatMap (c : Text) (ds : List Text) :
    documentedNames isName (c ++ ds.flatMap (marker ++ ·)) =
      documentedNames isName c ++ ds.flatMap fun d => documentedNames isName (marker ++ d) := by
  induction ds generalizing c with
  | nil => simp
  | cons d ds ih =>
    have hcons : c ++ (d :: ds).flatMap (marker ++ ·) =
        c ++ (marker ++ d) ++ ds.flatMap (marker ++ ·) := by
      simp only [List.flatMap_cons, List.append_assoc]
    rw [hcons, ih, documentedNames_append, List.flatMap_cons, List.append_assoc]

/-- Directives are independent. What a directive lists is the same after every comment, also if the
text before it and its own text are malformed, and so for any number of directives. All that is
listed are names, and the text before the first directive lists none. -/
theorem documentedNames_independent :
    (∀ c d, documentedNames isName (c ++ (marker ++ d)) =
      documentedNames isName c ++ documentedNames isName (marker ++ d)) ∧
    (∀ (c : Text) (ds : List Text), documentedNames isName (c ++ ds.flatMap (marker ++ ·)) =
      documentedNames isName c ++ ds.flatMap fun d => documentedNames isName (marker ++ d)) ∧
    (∀ c, ∀ name ∈ documentedNames isName c, isName name = true) ∧
    ∀ c, ¬ marker <:+: c → documentedNames isName c = [] ∧
      ∀ d, documentedNames isName (c ++ (marker ++ d)) = documentedNames isName (marker ++ d) := by
  refine ⟨documentedNames_append isName, documentedNames_flatMap isName,
    fun c name h => isName_of_mem_documentedNames h, fun c hc => ?_⟩
  have hnone : documentedNames isName c = [] := documentedNames_of_not_infix isName hc
  exact ⟨hnone, fun d => by rw [documentedNames_append, hnone, List.nil_append]⟩

/-- The text before the directives has an at sign at its start, and ends like a marker without its
blank. -/
theorem documentedNames_independent_unmarked :
    (¬ marker <:+: "@docs foo\n@docs".toList) ∧
    documentedNames isIdentifier "@docs foo\n@docs" = [] ∧
    documentedNames isIdentifier ("@docs foo\n@docs".toList ++
      (marker ++ "bar, 2 more, baz\n@docs (|.)".toList)) = ["bar".toList, "(|.)".toList] := by
  have hunmarked : ¬ marker <:+: "@docs foo\n@docs".toList := by
    rw [← Text.hasPart_iff]
    decide
  obtain ⟨hnone, hrest⟩ := (documentedNames_independent isIdentifier).2.2.2 _ hunmarked
  refine ⟨hunmarked, hnone, ?_⟩
  rw [hrest]
  decide

end DocIndex.Directive

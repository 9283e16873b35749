import DocIndex.Text.Basic

/-!
Cutting a text at a marker. Occurrences of a marker cannot overlap when its first character does not
come again in it, so a text with the marker in it is cut into the pieces of its two sides.
-/
namespace DocIndex.Text

theorem cutSkipping_eq (marker : Text) (n : Nat) (t : Text) :
    cutSkipping marker n t = cutAt marker (t.drop n) := by
  induction t generalizing n with
  | nil => rw [List.drop_nil, cutAt, cutSkipping, cutSkipping]
  | cons c t ih =>
    cases n with
    | zero => rfl
    | succ n => rw [cutSkipping, ih, List.drop_succ_cons]

theorem cutAt_append {marker : Text} (hne : marker ≠ []) (t : Text) :
    cutAt marker (marker ++ t) = [] :: cutAt marker t := by
  obtain ⟨c, m, rfl⟩ := List.exists_cons_of_ne_nil hne
  have hstart : (c :: m).isPrefixOf (c :: (m ++ t)) = true :=
    List.isPrefixOf_iff_prefix.mpr (List.prefix_append (c :: m) t)
  rw [List.cons_append, cutAt, cutSkipping, if_pos hstart, cutSkipping_eq, List.length_cons,
    Nat.add_sub_cancel, List.drop_left]

theorem cutAt_cons {marker : Text} {c : Char} {t : Text} (h : ¬ marker <+: c :: t) :
    cutAt marker (c :: t) = (cutAt marker t).modifyHead (c :: ·) := by
  rw [cutAt, cutSkipping, if_neg fun hstart => h (List.isPrefixOf_iff_prefix.mp hstart), ← cutAt]

/-- A text without the marker is one piece. -/
theorem cutAt_of_not_infix {marker t : Text} (h : ¬ marker <:+: t) : cutAt marker t = [t] := by
  induction t with
  | nil => rfl
  | cons c t ih =>
    have hstart : ¬ marker <+: c :: t := fun hstart => h hstart.isInfix
    rw [cutAt_cons hstart, ih fun hrest => h (List.infix_cons hrest), List.modifyHead_cons]

theorem cutAt_ne_nil (marker t : Text) : cutAt marker t ≠ [] := by
  cases t with
  | nil => exact List.cons_ne_nil _ _
  | cons c t =>
    rw [cutAt, cutSkipping]
    split
    · exact List.cons_ne_nil _ _
    · rw [Ne, List.modifyHead_eq_nil_iff]
      exact cutAt_ne_nil marker t

/-- A marker at a text's start that runs into the next marker would hold its first character
twice. -/
theorem prefix_of_prefix_append {c d : Char} {m t u : Text} (hc : c ∉ m)
    (h : c :: m <+: d :: t ++ (c :: m ++ u)) : c :: m <+: d :: t := by
  rcases List.prefix_or_prefix_of_prefix h (List.prefix_append (d :: t) _) with hstart | hstart
  · exact hstart
  · obtain ⟨rest, hrest⟩ := hstart
    rw [← hrest, List.prefix_append_right_inj] at h
    cases rest with
    | nil => exact ⟨[], by simpa using hrest.symm⟩
    | cons e rest =>
      have he : e = c := (List.cons_prefix_cons.mp (hrest ▸ h)).1
      have hm : m = t ++ e :: rest := (List.cons.inj hrest).2.symm
      rw [hm, he] at hc
      simp at hc

/-- What stands before a marker and what stands after it are cut apart from each other. -/
theorem cutAt_append_marker {c : Char} {m : Text} (hc : c ∉ m) (t u : Text) :
    cutAt (c :: m) (t ++ (c :: m ++ u)) = cutAt (c :: m) t ++ cutAt (c :: m) u := by
  induction hn : t.length using Nat.strongRecOn generalizing t with
  | _ n ih =>
    cases t with
    | nil => exact cutAt_append (List.cons_ne_nil c m) u
    | cons d t =>
      by_cases hstart : c :: m <+: d :: t
      · obtain ⟨rest, hrest⟩ := hstart
        have hlt : rest.length < n := by
          have hlen := congrArg List.length hrest
          simp only [List.length_append, List.length_cons] at hlen hn
          omega
        rw [← hrest, List.append_assoc, cutAt_append (List.cons_ne_nil c m), ih _ hlt rest rfl,
          cutAt_append (List.cons_ne_nil c m), List.cons_append]
      · obtain ⟨first, rest, hfirst⟩ := List.exists_cons_of_ne_nil (cutAt_ne_nil (c :: m) t)
        have hlt : t.length < n := by
          rw [List.length_cons] at hn
          omega
        have happend : ¬ c :: m <+: d :: (t ++ (c :: m ++ u)) :=
          fun h => hstart (prefix_of_prefix_append hc h)
        rw [List.cons_append, cutAt_cons happend, ih _ hlt t rfl, cutAt_cons hstart, hfirst]
        rfl

end DocIndex.Text

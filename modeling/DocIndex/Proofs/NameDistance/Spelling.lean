import DocIndex.Proofs.NameDistance
import DocIndex.Text.Similarity
import Mathlib.Logic.Relation

/-!
Spellings of a name. The case of ASCII letters, white space around a text and parentheses around it
leave its core as it is, so the distance of a name from a query does not depend on them.
-/
namespace DocIndex

structure Unpadded (t : Text) : Prop where
  first : ∀ c ∈ t.head?, Text.isBlank c = false
  last : ∀ c ∈ t.getLast?, Text.isBlank c = false

namespace Unpadded

theorem trim {t : Text} (h : Unpadded t) : Text.trim t = t :=
  Text.trimWhile_eq_self_of_ends h.first h.last

theorem append {t u : Text} (ht : Unpadded t) (hu : Unpadded u) : Unpadded (t ++ u) where
  first c hc := by
    rw [List.head?_append, Option.mem_def, Option.or_eq_some_iff] at hc
    exact hc.elim (ht.first c) fun h => hu.first c h.2
  last c hc := by
    rw [List.getLast?_append, Option.mem_def, Option.or_eq_some_iff] at hc
    exact hc.elim (hu.last c) fun h => ht.last c h.2

theorem of_forall {t : Text} (h : ∀ c ∈ t, Text.isBlank c = false) : Unpadded t where
  first c hc := h c (List.mem_of_mem_head? hc)
  last c hc := h c (List.mem_of_mem_getLast? hc)

theorem replicate {c : Char} (hc : Text.isBlank c = false) (n : ℕ) :
    Unpadded (List.replicate n c) :=
  of_forall fun _ hd => List.eq_of_mem_replicate hd ▸ hc

end Unpadded

theorem nameCore_map_toLower (t : Text) : nameCore (t.map Char.toLower) = nameCore t := by
  have hopen : ∀ c : Char, decide (c.toLower = '(') = decide (c = '(') :=
    fun c => decide_eq_decide.mpr (Text.toLower_eq_iff (by decide +kernel) c)
  have hclose : ∀ c : Char, decide (c.toLower = ')') = decide (c = ')') :=
    fun c => decide_eq_decide.mpr (Text.toLower_eq_iff (by decide +kernel) c)
  rw [nameCore, Text.trim, Text.trimWhile_map Text.isBlank_toLower, Text.dropWhile_map hopen,
    Text.dropEndWhile_map hclose, Text.lowercase_map_toLower]
  rfl

theorem nameCore_padded {before after : Text} (hb : ∀ c ∈ before, Text.isBlank c = true)
    (ha : ∀ c ∈ after, Text.isBlank c = true) (t : Text) :
    nameCore (before ++ (t ++ after)) = nameCore t := by
  rw [nameCore, Text.trim, Text.trimWhile, Text.dropEndWhile_dropWhile_append hb ha]
  rfl

/-- The parentheses need not be balanced. -/
theorem nameCore_enclosed {t : Text} (h : Unpadded t) (m n : ℕ) :
    nameCore (List.replicate m '(' ++ (t ++ List.replicate n ')')) = nameCore t := by
  have hopen : ∀ c ∈ List.replicate m '(', decide (c = '(') = true :=
    fun c hc => decide_eq_true (List.eq_of_mem_replicate hc)
  have hclose : ∀ c ∈ List.replicate n ')', decide (c = ')') = true :=
    fun c hc => decide_eq_true (List.eq_of_mem_replicate hc)
  have henclosed : Unpadded (List.replicate m '(' ++ (t ++ List.replicate n ')')) :=
    (Unpadded.replicate (by decide) m).append (h.append (Unpadded.replicate (by decide) n))
  rw [nameCore, nameCore, henclosed.trim, h.trim, Text.dropEndWhile_dropWhile_append hopen hclose]

/-- The second text is the first one with ASCII letters in another case, with white space around it,
or, unless there is white space at its ends, with parentheses around it. -/
inductive Respelled : Text → Text → Prop where
  | recased {t u : Text} (h : t.map Char.toLower = u.map Char.toLower) : Respelled t u
  | padded {before after : Text} (hb : ∀ c ∈ before, Text.isBlank c = true)
      (ha : ∀ c ∈ after, Text.isBlank c = true) (t : Text) :
      Respelled t (before ++ (t ++ after))
  | enclosed {t : Text} (h : Unpadded t) (m n : ℕ) :
      Respelled t (List.replicate m '(' ++ (t ++ List.replicate n ')'))

theorem Respelled.nameCore_eq {t u : Text} (h : Respelled t u) : nameCore u = nameCore t := by
  cases h with
  | recased h => rw [← nameCore_map_toLower u, ← h, nameCore_map_toLower]
  | padded hb ha t => exact nameCore_padded hb ha t
  | enclosed h m n => exact nameCore_enclosed h m n

/-- Texts that lead to each other by any number of changes of spelling have the same core. -/
theorem nameCore_eq_of_eqvGen {t u : Text} (h : Relation.EqvGen Respelled t u) :
    nameCore t = nameCore u := by
  induction h with
  | rel t u h => exact h.nameCore_eq.symm
  | refl t => rfl
  | symm t u _ ih => exact ih.symm
  | trans t u w _ _ ih ih' => exact ih.trans ih'

/-- The distance of a name from a query does not depend on the spelling of either, whatever texts
count as resembling each other. -/
theorem nameDistance_respelled {σ : Type} [Scale σ] {query query' name name' : Text}
    (hquery : Relation.EqvGen Respelled query query')
    (hname : Relation.EqvGen Respelled name name') (resembles : Text → Text → Bool) :
    (nameDistance resembles query name : σ) = nameDistance resembles query' name' := by
  rw [nameDistance, nameDistance, nameCore_eq_of_eqvGen hquery, nameCore_eq_of_eqvGen hname]

/-- A sigma is final in the query and in the name, whatever stands around them. -/
theorem nameDistance_respelled_oldSigma :
    Relation.EqvGen Respelled "oldΣ" "\t((OlDΣ)) " ∧
      Relation.EqvGen Respelled "foldΣ" "(FOLDΣ)" ∧
      (nameDistance Text.resembles "\t((OlDΣ)) " "(FOLDΣ)" : Float) = 0.25 := by
  have hletters : ("OlDΣFOLDΣ".toList.all fun c => !Text.isBlank c) = true := by decide +kernel
  have hplain : ∀ c ∈ "OlDΣFOLDΣ".toList, Text.isBlank c = false :=
    fun c hc => by simpa using List.all_eq_true.mp hletters c hc
  have hquery : Relation.EqvGen Respelled "oldΣ" "\t((OlDΣ)) " := by
    have hcase : Respelled "oldΣ" "OlDΣ" := .recased (by decide +kernel)
    have hends : Unpadded "OlDΣ" := .of_forall fun c hc => hplain c (List.mem_append_left _ hc)
    have hparens : Respelled "OlDΣ" "((OlDΣ))" := .enclosed hends 2 2
    have hblanks : Respelled "((OlDΣ))" (['\t'] ++ ("((OlDΣ))".toList ++ [' '])) :=
      .padded (List.forall_mem_singleton.mpr (by decide +kernel))
        (List.forall_mem_singleton.mpr (by decide +kernel)) _
    exact ((Relation.EqvGen.rel _ _ hcase).trans _ _ _ (.rel _ _ hparens)).trans _ _ _
      (.rel _ _ hblanks)
  have hname : Relation.EqvGen Respelled "foldΣ" "(FOLDΣ)" := by
    have hcase : Respelled "foldΣ" "FOLDΣ" := .recased (by decide +kernel)
    have hends : Unpadded "FOLDΣ" :=
      .of_forall fun c hc => hplain c (List.mem_append_right "OlDΣ".toList hc)
    exact (Relation.EqvGen.rel _ _ hcase).trans _ _ _ (.rel _ _ (.enclosed hends 1 1))
  have hscore : (nameDistance Text.resembles "oldΣ" "foldΣ" : Float) = 0.25 := by decide +kernel
  exact ⟨hquery, hname,
    (nameDistance_respelled hquery hname Text.resembles).symm.trans hscore⟩

end DocIndex

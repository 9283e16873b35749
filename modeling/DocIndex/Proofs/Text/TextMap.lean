import DocIndex.Text.TextMap
import Mathlib.Data.List.Dedup
import Mathlib.Data.List.Induction
import Mathlib.Data.List.Sort

/-!
Maps from texts are determined by their look-ups, and a map made of a list of pairs holds the last
value of each key.
-/
namespace DocIndex.TextMap

variable {α : Type}

theorem find_isSome_iff (k : Text) (ps : List (Text × α)) :
    (find k ps).isSome ↔ k ∈ ps.map Prod.fst := by
  induction ps with
  | nil => simp [find]
  | cons p ps ih =>
    by_cases hk : p.1 = k
    · simp [find, hk]
    · have hk' : ¬ k = p.1 := fun h => hk h.symm
      simp [find, hk, hk', ih]

theorem mem_keys_iff {m : TextMap α} {k : Text} : k ∈ m.keys ↔ (m.get? k).isSome :=
  (find_isSome_iff k m.entries).symm

theorem find_eq_find? (k : Text) (ps : List (Text × α)) :
    find k ps = (ps.find? fun p => p.1 = k).map Prod.snd := by
  induction ps with
  | nil => rfl
  | cons p ps ih =>
    by_cases hk : p.1 = k
    · simp [find, hk]
    · simp [find, hk, ih]

theorem nodup_keys (m : TextMap α) : m.keys.Nodup := by
  rw [keys, List.Nodup, List.pairwise_map]
  refine m.ascending.imp fun {a b} hlt heq => ?_
  rw [heq] at hlt
  exact List.lt_irrefl _ hlt

/-- In a list without repetitions, one entry alone is left exactly if it is the only one to stay. -/
theorem filter_eq_singleton_iff {p : α → Bool} {l : List α} (h : l.Nodup) {a : α} :
    l.filter p = [a] ↔ a ∈ l ∧ p a = true ∧ ∀ b ∈ l, p b = true → b = a := by
  rw [← List.perm_singleton, List.perm_ext_iff_of_nodup (h.filter p) (List.nodup_singleton a)]
  simp only [List.mem_filter, List.mem_singleton]
  constructor
  · intro hiff
    obtain ⟨ha, hpa⟩ := (hiff a).mpr rfl
    exact ⟨ha, hpa, fun b hb hpb => (hiff b).mp ⟨hb, hpb⟩⟩
  · rintro ⟨ha, hpa, honly⟩ b
    exact ⟨fun hb => honly b hb.1 hb.2, by rintro rfl; exact ⟨ha, hpa⟩⟩

/-- In whatever order keys are gone through, each comes once. -/
theorem filter_eq_of_perm_keys {m : TextMap α} {ks : List Text} (h : ks.Perm m.keys) (k : Text) :
    (ks.filter fun key => key = k) = if (m.get? k).isSome then [k] else [] := by
  have hmem : k ∈ ks ↔ (m.get? k).isSome := h.mem_iff.trans mem_keys_iff
  split
  next hk =>
    rw [filter_eq_singleton_iff (h.nodup_iff.mpr m.nodup_keys)]
    exact ⟨hmem.mpr hk, decide_eq_true rfl, fun key _ hkey => of_decide_eq_true hkey⟩
  next hk =>
    refine List.filter_eq_nil_iff.mpr fun key hkey heq => hk (hmem.mp ?_)
    exact of_decide_eq_true heq ▸ hkey

theorem mem_keys_insert {m : TextMap α} {k key : Text} {v : α} :
    key ∈ (m.insert k v).keys ↔ key = k ∨ key ∈ m.keys := by
  rw [mem_keys_iff, mem_keys_iff, get?_insert]
  by_cases h : k = key
  · simp [h]
  · simp [h, Ne.symm h]

theorem find_eq_some_iff {k : Text} {v : α} {ps : List (Text × α)}
    (h : ps.Pairwise fun a b => a.1 < b.1) : find k ps = some v ↔ (k, v) ∈ ps := by
  induction ps with
  | nil => simp [find]
  | cons p ps ih =>
    obtain ⟨hp, hps⟩ := List.pairwise_cons.mp h
    by_cases hk : p.1 = k
    · have hnot : (k, v) ∉ ps := by
        intro hm
        have hlt : p.1 < k := hp (k, v) hm
        exact List.lt_irrefl k (hk ▸ hlt)
      simp only [find, hk, if_true, Option.some.injEq, List.mem_cons, hnot, or_false]
      exact ⟨fun hv => Prod.ext hk.symm hv.symm, fun hv => (congrArg Prod.snd hv).symm⟩
    · have hne : (k, v) ≠ p := fun hv => hk (congrArg Prod.fst hv).symm
      simp only [find, hk, if_false, List.mem_cons, hne, false_or]
      exact ih hps

theorem get?_eq_some_iff {m : TextMap α} {k : Text} {v : α} :
    m.get? k = some v ↔ (k, v) ∈ m.entries :=
  find_eq_some_iff m.ascending

theorem mem_values_iff {m : TextMap α} {v : α} : v ∈ m.values ↔ ∃ k, m.get? k = some v := by
  simp only [values, List.mem_map, get?_eq_some_iff, Prod.exists, exists_eq_right]

/-- Maps with the same look-ups are equal. -/
theorem ext_get? {m n : TextMap α} (h : ∀ k, m.get? k = n.get? k) : m = n := by
  have hirrefl : Std.Irrefl fun a b : Text × α => a.1 < b.1 := ⟨fun a => List.lt_irrefl a.1⟩
  have hanti : Std.Antisymm fun a b : Text × α => a.1 < b.1 :=
    ⟨fun a b hab hba => absurd (List.lt_trans hab hba) (List.lt_irrefl a.1)⟩
  have hmem : ∀ p : Text × α, p ∈ m.entries ↔ p ∈ n.entries := by
    intro p
    rw [← get?_eq_some_iff, ← get?_eq_some_iff, h]
  have hentries := m.ascending.eq_of_mem_iff n.ascending hmem
  cases m
  cases n
  congr

theorem ofList_concat (ps : List (Text × α)) (p : Text × α) :
    ofList (ps ++ [p]) = (ofList ps).insert p.1 p.2 := by
  simp [ofList]

/-- A map made of a list of pairs holds the last value of each key. -/
theorem get?_ofList (ps : List (Text × α)) (k : Text) :
    (ofList ps).get? k = (ps.filter (·.1 = k)).getLast?.map Prod.snd := by
  induction ps using List.reverseRecOn with
  | nil => rfl
  | append_singleton ps p ih =>
    rw [ofList_concat, get?_insert]
    by_cases hk : p.1 = k
    · simp [hk, List.filter_append]
    · simp [hk, ih, List.filter_append]

def LastWith {β : Type} (p : β → Prop) (bs : List β) (b : β) : Prop :=
  ∃ before after, bs = before ++ b :: after ∧ p b ∧ ∀ c ∈ after, ¬ p c

theorem getLast?_filter_eq_some_iff {β : Type} {p : β → Prop} [DecidablePred p] {bs : List β}
    {b : β} : (bs.filter fun c => p c).getLast? = some b ↔ LastWith p bs b := by
  rw [List.getLast?_eq_some_iff]
  constructor
  · rintro ⟨kept, hkept⟩
    obtain ⟨before, rest, rfl, -, hrest⟩ := List.filter_eq_append_iff.mp hkept
    obtain ⟨middle, after, rfl, -, hb, hafter⟩ := List.filter_eq_cons_iff.mp hrest
    refine ⟨before ++ middle, after, by simp, of_decide_eq_true hb, fun c hc hpc => ?_⟩
    exact List.filter_eq_nil_iff.mp hafter c hc (decide_eq_true hpc)
  · rintro ⟨before, after, rfl, hb, hafter⟩
    have hnil : (after.filter fun c => p c) = [] :=
      List.filter_eq_nil_iff.mpr fun c hc hpc => hafter c hc (of_decide_eq_true hpc)
    refine ⟨before.filter fun c => p c, ?_⟩
    rw [List.filter_append, List.filter_cons, if_pos (decide_eq_true hb), hnil]

section

variable {β : Type} {key : β → Text} {value : β → α} {bs : List β} {k : Text}

theorem get?_ofList_map :
    (ofList (bs.map fun b => (key b, value b))).get? k =
      (bs.filter fun b => key b = k).getLast?.map value := by
  rw [get?_ofList, List.filter_map, List.getLast?_map, Option.map_map]
  rfl

theorem get?_ofList_map_eq_some_iff {v : α} :
    (ofList (bs.map fun b => (key b, value b))).get? k = some v ↔
      ∃ b, LastWith (fun b => key b = k) bs b ∧ value b = v := by
  simp only [get?_ofList_map, Option.map_eq_some_iff, getLast?_filter_eq_some_iff]

theorem mem_keys_ofList_map :
    k ∈ (ofList (bs.map fun b => (key b, value b))).keys ↔ ∃ b ∈ bs, key b = k := by
  rw [mem_keys_iff, get?_ofList_map, Option.isSome_map, List.getLast?_isSome, Ne,
    List.filter_eq_nil_iff]
  simp

/-- Each key comes once. -/
theorem perm_keys_ofList_map :
    (ofList (bs.map fun b => (key b, value b))).keys.Perm (bs.map key).dedup := by
  rw [List.perm_ext_iff_of_nodup (nodup_keys _) (List.nodup_dedup _)]
  intro k
  rw [mem_keys_ofList_map, List.mem_dedup, List.mem_map]

end

theorem length_place_le (k : Text) (v : α) (ps : List (Text × α)) :
    (place k v ps).length ≤ ps.length + 1 := by
  induction ps with
  | nil => exact Nat.le_refl _
  | cons p ps ih =>
    rw [place]
    split
    · exact Nat.le_refl _
    · split
      · exact Nat.le_succ _
      · exact Nat.succ_le_succ ih

/-- A map made of a list of pairs has no more entries than the list has pairs. -/
theorem size_ofList_le (ps : List (Text × α)) : (ofList ps).size ≤ ps.length := by
  induction ps using List.reverseRecOn with
  | nil => exact Nat.le_refl _
  | append_singleton ps p ih =>
    rw [ofList_concat, List.length_append, List.length_singleton]
    exact (length_place_le p.1 p.2 (ofList ps).entries).trans (Nat.succ_le_succ ih)

end DocIndex.TextMap

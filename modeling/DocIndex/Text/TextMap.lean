import DocIndex.Text.Basic

/-!
Finite maps from texts. The entries are kept in ascending key order, so equal maps have equal
entries whatever the order of the insertions was.
-/
namespace DocIndex

structure TextMap (α : Type) where
  entries : List (Text × α)
  ascending : entries.Pairwise fun a b => a.1 < b.1

namespace TextMap

variable {α : Type}

def empty : TextMap α := ⟨[], .nil⟩

def keys (m : TextMap α) : List Text := m.entries.map Prod.fst

def values (m : TextMap α) : List α := m.entries.map Prod.snd

def size (m : TextMap α) : Nat := m.entries.length

def find (k : Text) : List (Text × α) → Option α
  | [] => none
  | p :: rest => if p.1 = k then some p.2 else find k rest

def get? (m : TextMap α) (k : Text) : Option α := find k m.entries

/-- Puts a pair into ascending entries; an entry with the same key gives way. -/
def place (k : Text) (v : α) : List (Text × α) → List (Text × α)
  | [] => [(k, v)]
  | p :: rest =>
    if k < p.1 then (k, v) :: p :: rest
    else if k = p.1 then (k, v) :: rest
    else p :: place k v rest

theorem fst_of_mem_place {k : Text} {v : α} {q : Text × α} : ∀ {ps : List (Text × α)},
    q ∈ place k v ps → q.1 = k ∨ q ∈ ps
  | [], h => by
    simp only [place, List.mem_singleton] at h
    simp [h]
  | p :: rest, h => by
    simp only [place] at h
    split at h
    · rcases List.mem_cons.mp h with rfl | h
      · exact .inl rfl
      · exact .inr h
    · split at h
      · rcases List.mem_cons.mp h with rfl | h
        · exact .inl rfl
        · exact .inr (List.mem_cons_of_mem _ h)
      · rcases List.mem_cons.mp h with rfl | h
        · exact .inr List.mem_cons_self
        · exact (fst_of_mem_place h).imp_right (List.mem_cons_of_mem _)

theorem place_ascending (k : Text) (v : α) : ∀ {ps : List (Text × α)},
    ps.Pairwise (fun a b => a.1 < b.1) → (place k v ps).Pairwise fun a b => a.1 < b.1
  | [], _ => by simp [place]
  | p :: rest, h => by
    obtain ⟨hp, hrest⟩ := List.pairwise_cons.mp h
    simp only [place]
    split
    next hlt =>
      refine List.pairwise_cons.mpr ⟨fun q hq => ?_, h⟩
      rcases List.mem_cons.mp hq with rfl | hq
      · exact hlt
      · exact List.lt_trans hlt (hp q hq)
    next hnlt =>
      split
      next heq => exact List.pairwise_cons.mpr ⟨fun q hq => heq ▸ hp q hq, hrest⟩
      next hne =>
        have hlt : p.1 < k := by grind
        refine List.pairwise_cons.mpr ⟨fun q hq => ?_, place_ascending k v hrest⟩
        rcases fst_of_mem_place hq with hk | hq
        · exact hk ▸ hlt
        · exact hp q hq

def insert (m : TextMap α) (k : Text) (v : α) : TextMap α :=
  ⟨place k v m.entries, place_ascending k v m.ascending⟩

/-- The map of a list of pairs, where a later pair replaces an earlier one with the same key. -/
def ofList (ps : List (Text × α)) : TextMap α :=
  ps.foldl (fun m p => m.insert p.1 p.2) empty

theorem find_place (k k' : Text) (v : α) : ∀ ps : List (Text × α),
    ps.Pairwise (fun a b => a.1 < b.1) →
      find k' (place k v ps) = if k = k' then some v else find k' ps
  | [], _ => by simp [place, find]
  | p :: rest, h => by
    obtain ⟨hp, hrest⟩ := List.pairwise_cons.mp h
    simp only [place]
    split
    · simp [find]
    · split
      next heq =>
        subst heq
        by_cases hk : p.1 = k' <;> simp [find, hk]
      next hne =>
        have ih := find_place k k' v rest hrest
        by_cases hk : p.1 = k'
        · have : k ≠ k' := fun e => hne (e.trans hk.symm)
          simp [find, hk, this]
        · simp [find, hk, ih]

@[simp] theorem get?_empty (k : Text) : (empty : TextMap α).get? k = none := rfl

theorem get?_insert (m : TextMap α) (k k' : Text) (v : α) :
    (m.insert k v).get? k' = if k = k' then some v else m.get? k' :=
  find_place k k' v m.entries m.ascending

end TextMap

end DocIndex

import DocIndex.Page.Lookup
import DocIndex.Proofs.Docs.Contents
import DocIndex.Proofs.Name
import Mathlib.Data.List.Dedup

/-!
Which names documentation exports. An identifier resolves to one name for each module with an entry
of this key, in name order, and it does so whatever the order in which the keys of a module come.
-/
namespace DocIndex

namespace Docs

/-- Modules that stand under their own names come in the order of these names. -/
theorem Keyed.pairwise_values {d : Docs} (h : d.Keyed) :
    d.modules.values.Pairwise fun m k => m.name < k.name := by
  rw [TextMap.values, List.pairwise_map]
  refine d.modules.ascending.imp_of_mem fun {a b} ha hb hlt => ?_
  rw [h a.1 a.2 (TextMap.get?_eq_some_iff.mpr ha), h b.1 b.2 (TextMap.get?_eq_some_iff.mpr hb)]
  exact hlt

theorem Keyed.get?_eq_some_iff {d : Docs} (h : d.Keyed) {home : Text} {m : ModuleDocs} :
    d.modules.get? home = some m ↔ m ∈ d.modules.values ∧ m.name = home := by
  rw [TextMap.mem_values_iff]
  constructor
  · intro hm
    exact ⟨⟨home, hm⟩, h home m hm⟩
  · rintro ⟨⟨key, hm⟩, rfl⟩
    rw [h key m hm]
    exact hm

def exporters (d : Docs) (ident : Text) : List ModuleDocs :=
  d.modules.values.filter fun m => (m.entries.get? ident).isSome

/-- The qualified names of all entries, where the keys of each module come in some order. -/
def namesInOrder (d : Docs) (order : ModuleDocs → List Text) : List Name :=
  d.modules.values.flatMap fun m => (order m).map fun key => ⟨m.name, key⟩

variable {d : Docs} {order : ModuleDocs → List Text}

theorem map_ident_namesInOrder (d : Docs) (order : ModuleDocs → List Text) :
    (d.namesInOrder order).map Name.ident = d.modules.values.flatMap order := by
  simp [namesInOrder, List.map_flatMap, Function.comp_def]

theorem filter_namesInOrder (horder : ∀ m, (order m).Perm m.entries.keys) (ident : Text) :
    (d.namesInOrder order).filter (·.ident = ident) =
      (d.exporters ident).map fun m => ⟨m.name, ident⟩ := by
  have hmodule : ∀ m : ModuleDocs,
      (((order m).map fun key => (⟨m.name, key⟩ : Name)).filter fun n => n.ident = ident) =
        if (m.entries.get? ident).isSome then [⟨m.name, ident⟩] else [] := by
    intro m
    have hkeys := TextMap.filter_eq_of_perm_keys (horder m) ident
    rw [List.filter_map]
    simp only [Function.comp_def, hkeys]
    split <;> rfl
  simp only [namesInOrder, exporters, List.filter_flatMap, hmodule]
  induction d.modules.values with
  | nil => rfl
  | cons m ms ih =>
    rw [List.flatMap_cons, ih, List.filter_cons]
    split <;> rfl

/-- The names of different modules stand in name order. -/
theorem Keyed.pairwise_exporters (h : d.Keyed) (ident : Text) :
    ((d.exporters ident).map fun m => (⟨m.name, ident⟩ : Name)).Pairwise
      fun a b => a.le b = true ∧ a ≠ b := by
  rw [List.pairwise_map]
  exact (h.pairwise_values.filter _).imp fun hlt => Name.le_and_ne_of_home_lt hlt

end Docs

namespace Exports

theorem mem_keys_foldl_add (ns : List Name) (e : Exports) (ident : Text) :
    ident ∈ (ns.foldl add e).names.keys ↔ ident ∈ e.names.keys ∨ ident ∈ ns.map Name.ident := by
  induction ns generalizing e with
  | nil => simp
  | cons n ns ih =>
    rw [List.foldl_cons, ih, add, TextMap.mem_keys_insert, List.map_cons, List.mem_cons, or_assoc,
      or_left_comm]

/-- There are as many identifiers as different ones among the names. -/
theorem size_foldl_add (ns : List Name) :
    (ns.foldl add empty).size = (ns.map Name.ident).dedup.length := by
  have hkeys : (ns.foldl add empty).names.keys.Perm (ns.map Name.ident).dedup := by
    rw [List.perm_ext_iff_of_nodup (TextMap.nodup_keys _) (List.nodup_dedup _)]
    intro ident
    rw [mem_keys_foldl_add, List.mem_dedup]
    simp [empty, TextMap.empty, TextMap.keys]
  rw [← hkeys.length_eq]
  exact (List.length_map Prod.fst).symm

variable {d : Docs} {order : ModuleDocs → List Text}

theorem resolve_namesInOrder (horder : ∀ m, (order m).Perm m.entries.keys) (ident : Text) :
    ((d.namesInOrder order).foldl add empty).resolve ident =
      (d.exporters ident).map fun m => ⟨m.name, ident⟩ := by
  rw [resolve_foldl_add, Docs.filter_namesInOrder horder]
  rfl

theorem resolve_ofDocs_eq (d : Docs) (ident : Text) :
    (ofDocs d).resolve ident = (d.exporters ident).map fun m => ⟨m.name, ident⟩ :=
  resolve_namesInOrder (fun _ => .refl _) ident

theorem size_namesInOrder (horder : ∀ m, (order m).Perm m.entries.keys) :
    ((d.namesInOrder order).foldl add empty).size =
      (d.modules.values.flatMap fun m => m.entries.keys).dedup.length := by
  rw [size_foldl_add, Docs.map_ident_namesInOrder]
  refine List.Perm.length_eq ?_
  rw [List.perm_ext_iff_of_nodup (List.nodup_dedup _) (List.nodup_dedup _)]
  simp only [List.mem_dedup, List.mem_flatMap, (horder _).mem_iff, implies_true]

end Exports

end DocIndex

import DocIndex.Docs.Exports
import DocIndex.Docs.Source
import DocIndex.IndexedValue
import DocIndex.Proofs.Directive.Parts
import DocIndex.Proofs.Text.TextMap

/-!
What the documentation of a package holds: the values that can be found in it, the modules they are
documented in, and the names it exports.
-/
namespace DocIndex

/-- A value of a module stands in its comment and has an entry. -/
theorem ModuleDocs.mem_values_iff {m : ModuleDocs} {package : Text} {v : IndexedValue} :
    v ∈ m.values package ↔
      ∃ ident ∈ Directive.documentedNames Directive.isIdentifier m.comment,
        ∃ e, m.entries.get? ident = some e ∧ IndexedValue.ofEntry package m.name ident e = v := by
  simp only [values, List.mem_filterMap, Option.map_eq_some_iff]

namespace Docs

theorem mem_values_iff {d : Docs} {package : Text} {v : IndexedValue} :
    v ∈ d.values package ↔ ∃ key m, d.modules.get? key = some m ∧ v ∈ m.values package := by
  simp only [values, List.mem_flatMap, TextMap.mem_values_iff]
  grind

theorem package_of_mem_values {d : Docs} {package : Text} {v : IndexedValue}
    (h : v ∈ d.values package) : v.package = package := by
  obtain ⟨key, m, -, hv⟩ := mem_values_iff.mp h
  obtain ⟨ident, -, e, -, rfl⟩ := ModuleDocs.mem_values_iff.mp hv
  rfl

/-- The values of documentation have identifiers that directives may list. -/
theorem isIdentifier_of_mem_values {d : Docs} {package : Text} {v : IndexedValue}
    (h : v ∈ d.values package) : Directive.isIdentifier v.name.ident = true := by
  obtain ⟨key, m, -, hv⟩ := mem_values_iff.mp h
  obtain ⟨ident, hlisted, e, -, rfl⟩ := ModuleDocs.mem_values_iff.mp hv
  exact Directive.isName_of_mem_documentedNames hlisted

/-- Every module stands under its own name. -/
def Keyed (d : Docs) : Prop := ∀ key m, d.modules.get? key = some m → m.name = key

theorem ofModules_get? (ms : List ModuleDocs) (key : Text) :
    (ofModules ms).modules.get? key = (ms.filter (·.name = key)).getLast? := by
  simp [ofModules, TextMap.get?_ofList, List.filter_map, Function.comp_def]

/-- Documentation made of modules has each of them under its own name. -/
theorem keyed_ofModules (ms : List ModuleDocs) : (ofModules ms).Keyed := by
  intro key m h
  rw [ofModules_get?] at h
  have hm : m ∈ ms.filter (·.name = key) := List.mem_of_getLast? h
  exact of_decide_eq_true (List.mem_filter.mp hm).2

theorem bind_ofJson?_eq_some_iff {j : Option Json} {d : Docs} :
    j.bind ofJson? = some d ↔
      ∃ ms, j.bind (Json.list? ModuleSource.ofJson?) = some ms ∧ ofSources ms = d := by
  cases j with
  | none => simp
  | some j => simp [ofJson?]

/-- The modules of served documentation keep each entry under its own name. -/
theorem name_of_get?_ofSources {ms : List ModuleSource} {key ident : Text} {m : ModuleDocs}
    {e : Entry Text} (hm : (ofSources ms).modules.get? key = some m)
    (he : m.entries.get? ident = some e) : e.name = ident := by
  rw [ofSources, ofModules_get?] at hm
  have hmem := (List.mem_filter.mp (List.mem_of_getLast? hm)).1
  obtain ⟨s, -, rfl⟩ := List.mem_map.mp hmem
  obtain ⟨f, ⟨-, -, -, hname, -⟩, rfl⟩ := TextMap.get?_ofList_map_eq_some_iff.mp he
  exact hname

theorem mem_exportedNames_iff {d : Docs} {n : Name} :
    n ∈ d.exportedNames ↔
      ∃ key m e, d.modules.get? key = some m ∧ m.name = n.home ∧
        m.entries.get? n.ident = some e := by
  obtain ⟨home, ident⟩ := n
  simp only [exportedNames, List.mem_flatMap, List.mem_map, TextMap.mem_values_iff,
    TextMap.mem_keys_iff, Option.isSome_iff_exists, Name.mk.injEq]
  grind

end Docs

theorem Exports.resolve_foldl_add (ns : List Name) (e : Exports) (ident : Text) :
    (ns.foldl add e).resolve ident = e.resolve ident ++ ns.filter (·.ident = ident) := by
  induction ns generalizing e with
  | nil => simp
  | cons n ns ih =>
    rw [List.foldl_cons, ih, resolve_add]
    by_cases h : n.ident = ident <;> simp [h]

/-- An identifier resolves to the names that the package exports under it. -/
theorem Exports.resolve_ofDocs (d : Docs) (ident : Text) :
    (ofDocs d).resolve ident = d.exportedNames.filter (·.ident = ident) :=
  resolve_foldl_add d.exportedNames empty ident

end DocIndex

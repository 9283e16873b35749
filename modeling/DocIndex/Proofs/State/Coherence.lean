import DocIndex.Proofs.Docs.Contents
import DocIndex.Proofs.State.Log

/-!
The index and the held releases agree. A release that arrives again replaces what was held under its
identifier, while the values of its earlier documentation stay in the index before the new ones.
-/
namespace DocIndex

def Index.valuesOf (i : Index) (id : Text) : List IndexedValue := i.values.filter (·.package = id)

/-- The value is documented in what is held: its module has an entry under its identifier with the
comment and the type of the value, and its name is among those that the identifier resolves to. -/
def IndexedValue.DocumentedIn (v : IndexedValue) (h : Holding) : Prop :=
  ∃ m e, h.docs.modules.get? v.name.home = some m ∧ m.entries.get? v.name.ident = some e ∧
    e.comment = v.entry.comment ∧ Ty.ofSignature e.signature = v.entry.signature ∧
    v.name ∈ h.exports.resolve v.name.ident

/-- All values of documentation are documented in it. -/
theorem Docs.documentedIn_of_mem_values {d : Docs} (hd : d.Keyed) {r : Release} {package : Text}
    {v : IndexedValue} (hv : v ∈ d.values package) : v.DocumentedIn (Holding.of r d) := by
  obtain ⟨key, m, hm, hv⟩ := mem_values_iff.mp hv
  obtain ⟨ident, -, e, he, rfl⟩ := ModuleDocs.mem_values_iff.mp hv
  have hname : m.name = key := hd key m hm
  have hexported : (⟨m.name, ident⟩ : Name) ∈ d.exportedNames :=
    mem_exportedNames_iff.mpr ⟨key, m, e, hm, rfl, he⟩
  refine ⟨m, e, ?_, he, rfl, rfl, ?_⟩
  · rw [← hname] at hm
    exact hm
  · have hresolve : (⟨m.name, ident⟩ : Name) ∈ (Exports.ofDocs d).resolve ident := by
      rw [Exports.resolve_ofDocs]
      exact List.mem_filter.mpr ⟨hexported, by simp⟩
    exact hresolve

namespace Log

def loads (log : Log) (id : Text) : List Docs :=
  (log.arrivals.filter fun a => a.1.identifier = id).map Prod.snd

theorem package_mem_keys_holdings {log : Log} {v : IndexedValue} (hv : v ∈ log.index.values) :
    v.package ∈ log.index.holdings.keys := by
  obtain ⟨⟨r, d⟩, ha, hv⟩ := List.mem_flatMap.mp hv
  exact (mem_keys_holdings log v.package).mpr ⟨(r, d), ha, (Docs.package_of_mem_values hv).symm⟩

/-- The values indexed for a release are those of all its documentation, in order of arrival. -/
theorem valuesOf_index (log : Log) (id : Text) :
    log.index.valuesOf id = (log.loads id).flatMap (Docs.values id) := by
  have hpart : ∀ a : Release × Docs,
      ((a.2.values a.1.identifier).filter fun v => decide (v.package = id)) =
        if a.1.identifier = id then a.2.values id else [] := by
    intro a
    split
    next h =>
      subst h
      refine List.filter_eq_self.mpr fun v hv => ?_
      simp [Docs.package_of_mem_values hv]
    next h =>
      refine List.filter_eq_nil_iff.mpr fun v hv => ?_
      simp [Docs.package_of_mem_values hv, h]
  simp only [Index.valuesOf, index, loads, List.filter_flatMap, List.flatMap_map]
  induction log.arrivals with
  | nil => rfl
  | cons a arrivals ih =>
    rw [List.flatMap_cons, hpart, ih]
    by_cases h : a.1.identifier = id <;> simp [h]

/-- What is held of a release is what arrived last for it. -/
theorem loads_of_get?_holdings {log : Log} {id : Text} {held : Holding}
    (h : log.index.holdings.get? id = some held) :
    held.release.identifier = id ∧ held = Holding.of held.release held.docs ∧
      ∃ replaced, log.loads id = replaced ++ [held.docs] := by
  rw [get?_holdings] at h
  obtain ⟨a, ha, rfl⟩ := Option.map_eq_some_iff.mp h
  have hmem := List.mem_of_getLast? ha
  refine ⟨of_decide_eq_true (List.mem_filter.mp hmem).2, rfl, ?_⟩
  obtain ⟨before, hbefore⟩ := List.getLast?_eq_some_iff.mp ha
  exact ⟨before.map Prod.snd, by simp [loads, hbefore, Holding.of]⟩

theorem index_of_state {log : Log} {i : Index} (h : log.state = .indexed i) : i = log.index := by
  unfold state at h
  split at h
  · cases h
  · split at h
    · exact (State.indexed.inj h).symm
    · split at h <;> cases h

/-- The values of an index belong to held releases, each under its own key. -/
theorem exists_held_of_state {log : Log} {i : Index}
    (hstate : State.waiting.afterAll log = .indexed i) {v : IndexedValue} (hv : v ∈ i.values) :
    ∃ h, i.holdings.get? v.package = some h ∧ h.release.identifier = v.package := by
  rw [afterAll_waiting] at hstate
  obtain rfl := index_of_state hstate
  obtain ⟨h, hheld⟩ := Option.isSome_iff_exists.mp
    (TextMap.mem_keys_iff.mp (package_mem_keys_holdings hv))
  exact ⟨h, hheld, (loads_of_get?_holdings hheld).1⟩

/-- After any events the index and the held releases agree: every value belongs to a held release;
each release is held under its own identifier with the exports of its documentation; the values of a
release are those of its replaced documentation, in order of arrival, and then those of the one that
is held. So all values of a release that arrived once are documented in what is held of it. -/
theorem index_coherent {log : Log} {i : Index} (h : State.waiting.afterAll log = .indexed i) :
    (∀ v ∈ i.values, v.package ∈ i.holdings.keys) ∧
    (∀ id held, i.holdings.get? id = some held →
      held.release.identifier = id ∧ held.exports = Exports.ofDocs held.docs ∧
      ∃ replaced, log.loads id = replaced ++ [held.docs] ∧
        i.valuesOf id = replaced.flatMap (Docs.values id) ++ held.docs.values id ∧
        (replaced = [] → held.docs.Keyed → ∀ v ∈ i.valuesOf id, v.DocumentedIn held)) ∧
    ∀ ms, (Docs.ofModules ms).Keyed := by
  have hi : i = log.index := by
    rw [afterAll_waiting] at h
    exact index_of_state h
  subst hi
  refine ⟨fun v hv => package_mem_keys_holdings hv, fun id held hheld => ?_, Docs.keyed_ofModules⟩
  obtain ⟨hid, hof, replaced, hloads⟩ := loads_of_get?_holdings hheld
  have hvalues : log.index.valuesOf id =
      replaced.flatMap (Docs.values id) ++ held.docs.values id := by
    simp [valuesOf_index, hloads]
  refine ⟨hid, congrArg Holding.exports hof, replaced, hloads, hvalues, ?_⟩
  intro hreplaced hkeyed v hv
  have hv : v ∈ held.docs.values id := by simpa [hvalues, hreplaced] using hv
  rw [hof]
  exact Docs.documentedIn_of_mem_values hkeyed hv

def oneValue (comment : Text) : Docs :=
  Docs.ofModules [⟨"M", "\n@docs x", TextMap.ofList [("x", ⟨"x", comment, "List a"⟩)]⟩]

/-- A failure, a release that arrives twice, and another one in between. -/
def reloads : Log := [
  .docsFailed ⟨"a/b", []⟩,
  .docsArrived ⟨"a", "b", ⟨1, 0, 0⟩⟩ (oneValue "first"),
  .docsArrived ⟨"c", "d", ⟨1, 0, 0⟩⟩ (oneValue "only"),
  .docsArrived ⟨"a", "b", ⟨1, 0, 0⟩⟩ (oneValue "second")]

theorem index_coherent_reloads :
    State.waiting.afterAll reloads = .indexed reloads.index ∧
    (∀ v ∈ reloads.index.values, v.package ∈ reloads.index.holdings.keys) ∧
    (reloads.loads "a/b/1.0.0").length = 2 ∧
    (oneValue "second").values "a/b/1.0.0" <:+ reloads.index.valuesOf "a/b/1.0.0" ∧
    ∀ v ∈ reloads.index.valuesOf "c/d/1.0.0",
      v.DocumentedIn (Holding.of ⟨"c", "d", ⟨1, 0, 0⟩⟩ (oneValue "only")) := by
  have hstate : State.waiting.afterAll reloads = .indexed reloads.index :=
    (afterAll_waiting reloads).trans rfl
  obtain ⟨hpackage, hheld, hkeyed⟩ := index_coherent hstate
  obtain ⟨-, -, replaced, -, hvalues, -⟩ :=
    hheld "a/b/1.0.0" (Holding.of ⟨"a", "b", ⟨1, 0, 0⟩⟩ (oneValue "second")) rfl
  obtain ⟨-, -, replaced', hloads, -, hdocumented⟩ :=
    hheld "c/d/1.0.0" (Holding.of ⟨"c", "d", ⟨1, 0, 0⟩⟩ (oneValue "only")) rfl
  have honce : replaced' = [] := by
    have hlength := congrArg List.length hloads
    have hone : (reloads.loads "c/d/1.0.0").length = 1 := rfl
    rw [hone, List.length_append, List.length_singleton] at hlength
    exact List.length_eq_zero_iff.mp (by omega)
  exact ⟨hstate, hpackage, rfl, ⟨_, hvalues.symm⟩, hdocumented honce (hkeyed _)⟩

end Log

end DocIndex

import DocIndex.Proofs.Docs.Exports
import DocIndex.Proofs.Page.Lookup
import DocIndex.Proofs.Page.Selection

/-!
What a look-up lists: the modules that export a name, each once and in module order, with the
signature as it is written and the link.
-/
namespace DocIndex

namespace Docs

/-- What is exported under a name: the qualified names that it may mean, each with its signature as
it is written, in module order. -/
def exportsFor (d : Docs) (n : Name) : List (Name × Text) :=
  d.modules.values.filterMap fun m =>
    if n.home = [] ∨ m.name = n.home then
      (m.entries.get? n.ident).map fun e => (⟨m.name, n.ident⟩, e.signature)
    else none

variable {d : Docs} {n c : Name} {signature : Text}

theorem exists_of_exportsFor_item {m : ModuleDocs} {p : Name × Text}
    (h : (if n.home = [] ∨ m.name = n.home then
      (m.entries.get? n.ident).map fun e => ((⟨m.name, n.ident⟩ : Name), e.signature)
      else none) = some p) :
    (n.home = [] ∨ m.name = n.home) ∧
      ∃ e, m.entries.get? n.ident = some e ∧ p = (⟨m.name, n.ident⟩, e.signature) := by
  split at h
  next hhome =>
    obtain ⟨e, he, rfl⟩ := Option.map_eq_some_iff.mp h
    exact ⟨hhome, e, he, rfl⟩
  next => cases h

theorem Keyed.mem_exportsFor_iff (h : d.Keyed) :
    (c, signature) ∈ d.exportsFor n ↔ c.ident = n.ident ∧ (n.home = [] ∨ c.home = n.home) ∧
      ∃ e, d.entry? c = some e ∧ e.signature = signature := by
  rw [exportsFor, List.mem_filterMap]
  constructor
  · rintro ⟨m, hm, hitem⟩
    obtain ⟨hhome, e, he, hp⟩ := exists_of_exportsFor_item hitem
    obtain ⟨rfl, rfl⟩ := Prod.mk.inj hp
    refine ⟨rfl, hhome, e, ?_, rfl⟩
    rw [Docs.entry?, h.get?_eq_some_iff.mpr ⟨hm, rfl⟩]
    exact he
  · rintro ⟨hident, hhome, e, hentry, rfl⟩
    obtain ⟨m, hm, he⟩ := Option.bind_eq_some_iff.mp hentry
    obtain ⟨hm, hname⟩ := h.get?_eq_some_iff.mp hm
    refine ⟨m, hm, ?_⟩
    rw [hname, if_pos hhome, ← hident, he]
    rfl

/-- The exported names come in name order, each once. -/
theorem Keyed.pairwise_exportsFor (h : d.Keyed) (n : Name) :
    (d.exportsFor n).Pairwise fun a b => a.1.le b.1 = true ∧ a.1 ≠ b.1 := by
  refine h.pairwise_values.filterMap _ fun m k hlt p hp q hq => ?_
  obtain ⟨-, -, -, rfl⟩ := exists_of_exportsFor_item hp
  obtain ⟨-, -, -, rfl⟩ := exists_of_exportsFor_item hq
  exact Name.le_and_ne_of_home_lt hlt

/-- A name with a home is exported once at most. -/
theorem Keyed.length_exportsFor_le (h : d.Keyed) (hhome : n.home ≠ []) :
    (d.exportsFor n).length ≤ 1 := by
  have hname : ∀ p ∈ d.exportsFor n, p.1 = n := by
    rintro ⟨⟨home, ident⟩, signature⟩ hp
    obtain ⟨hident, hsame, -⟩ := h.mem_exportsFor_iff.mp hp
    obtain rfl : home = n.home := hsame.resolve_left hhome
    obtain rfl : ident = n.ident := hident
    rfl
  cases hexports : d.exportsFor n with
  | nil => exact Nat.zero_le _
  | cons p rest =>
    cases rest with
    | nil => exact Nat.le_refl _
    | cons q rest =>
      have hpairwise := h.pairwise_exportsFor n
      rw [hexports] at hname hpairwise
      have hne := ((List.pairwise_cons.mp hpairwise).1 q List.mem_cons_self).2
      exact absurd ((hname p (by simp)).trans (hname q (by simp)).symm) hne

/-- The exported names are those that the identifier resolves to, in the home that is asked for. -/
theorem map_fst_exportsFor (d : Docs) (n : Name) :
    (d.exportsFor n).map Prod.fst = ((d.exporters n.ident).map fun m => ⟨m.name, n.ident⟩).filter
      fun c : Name => n.home.isEmpty || c.home = n.home := by
  unfold exportsFor exporters
  induction d.modules.values with
  | nil => rfl
  | cons m ms ih =>
    rw [List.filterMap_cons, List.filter_cons]
    cases he : m.entries.get? n.ident with
    | none => simpa using ih
    | some e =>
      by_cases hhome : n.home = [] ∨ m.name = n.home
      · simp [hhome, ih]
      · simp [hhome, ih]

theorem exportsFor_eq_nil_iff : d.exportsFor n = [] ↔
    ∀ m ∈ d.modules.values, (n.home = [] ∨ m.name = n.home) → m.entries.get? n.ident = none := by
  simp [exportsFor, List.filterMap_eq_nil_iff]

end Docs

theorem Holding.candidates_eq {h : Holding} (hexports : h.exports = Exports.ofDocs h.docs)
    (n : Name) : h.candidates n = (h.docs.exportsFor n).map Prod.fst := by
  rw [candidates, hexports, Exports.resolve_ofDocs_eq, Docs.map_fst_exportsFor]

namespace Page

variable {h : Holding} {id package : Text} {n : Name} (base : Text)

/-- A held release whose documentation does not export the name tells so, any other one lists what
is exported. -/
theorem lookupIn_eq (hexports : h.exports = Exports.ofDocs h.docs) (hkeyed : h.docs.Keyed) :
    lookupIn base id h n =
      if h.docs.exportsFor n = [] then
        "No value named '".toList ++ n.dotted ++ "' in ".toList ++ id ++ ['.']
      else
        '\'' :: n.dotted ++ "' in ".toList ++ id ++ ":\n\n".toList ++
          (h.docs.exportsFor n).flatMap fun p => '`' :: p.1.dotted ++ "`\n   : ".toList ++ p.2 ++
            "\n   ".toList ++ h.release.valueUrl base p.1 ++ "\n\n".toList := by
  have hblock : ∀ p ∈ h.docs.exportsFor n, candidateBlock base h p.1 =
      '`' :: p.1.dotted ++ "`\n   : ".toList ++ p.2 ++ "\n   ".toList ++
        h.release.valueUrl base p.1 ++ "\n\n".toList := by
    rintro ⟨c, signature⟩ hp
    obtain ⟨-, -, e, he, rfl⟩ := hkeyed.mem_exportsFor_iff.mp hp
    exact candidateBlock_of_entry? base he
  rw [lookupIn, Holding.candidates_eq hexports, ← List.flatMap_congr hblock]
  cases h.docs.exportsFor n with
  | nil => rfl
  | cons p rest =>
    rw [if_neg (List.cons_ne_nil p rest), ← List.flatMap_map]
    rfl

/-- What documentation exports, and what a look-up in a held release of it answers. An identifier
resolves to one name for each module with an entry of this key, in name order, and there are as many
identifiers as different keys; the keys of a module may come in any order. A look-up lists what is
exported under the name: each module once, in module order, and only the one in the home if a home is
given, all of them with the signature as it is written and the link. It tells that there is no such
value exactly if no module exports it. -/
theorem lookup_exporters {ms : List ModuleDocs} {d : Docs} (hd : d = Docs.ofModules ms) :
    (∀ ident, (Exports.ofDocs d).resolve ident =
        ((d.exporters ident).map fun m => ⟨m.name, ident⟩) ∧
      ((Exports.ofDocs d).resolve ident).Pairwise fun a b => a.le b = true ∧ a ≠ b) ∧
    (Exports.ofDocs d).size = (d.modules.values.flatMap fun m => m.entries.keys).dedup.length ∧
    (∀ order : ModuleDocs → List Text, (∀ m, (order m).Perm m.entries.keys) →
      let unsorted := (d.namesInOrder order).foldl Exports.add Exports.empty
      unsorted.size = (Exports.ofDocs d).size ∧
      ∀ ident, (unsorted.resolve ident).mergeSort Name.le = (Exports.ofDocs d).resolve ident) ∧
    ∀ n : Name,
      (∀ c signature, (c, signature) ∈ d.exportsFor n ↔ c.ident = n.ident ∧
        (n.home = [] ∨ c.home = n.home) ∧ ∃ e, d.entry? c = some e ∧ e.signature = signature) ∧
      ((d.exportsFor n).Pairwise fun a b => a.1.le b.1 = true ∧ a.1 ≠ b.1) ∧
      (n.home ≠ [] → (d.exportsFor n).length ≤ 1) ∧
      ∀ log i package id h, State.waiting.afterAll log = .indexed i →
        i.findHolding? (Text.trim package) = some (id, h) → h.docs = d → n.ident ≠ [] →
        lookup base (.indexed i) package n = .ok (
          if d.exportsFor n = [] then
            "No value named '".toList ++ n.dotted ++ "' in ".toList ++ id ++ ['.']
          else
            '\'' :: n.dotted ++ "' in ".toList ++ id ++ ":\n\n".toList ++
              (d.exportsFor n).flatMap fun p => '`' :: p.1.dotted ++ "`\n   : ".toList ++ p.2 ++
                "\n   ".toList ++ h.release.valueUrl base p.1 ++ "\n\n".toList) ∧
        (lookup base (.indexed i) package n = .ok (
            "No value named '".toList ++ n.dotted ++ "' in ".toList ++ id ++ ['.']) ↔
          ∀ m ∈ d.modules.values, n.home = [] ∨ m.name = n.home →
            m.entries.get? n.ident = none) := by
  have hkeyed : d.Keyed := hd ▸ Docs.keyed_ofModules ms
  have hpairwise : ∀ ident, ((Exports.ofDocs d).resolve ident).Pairwise
      fun a b => a.le b = true ∧ a ≠ b := by
    intro ident
    rw [Exports.resolve_ofDocs_eq]
    exact hkeyed.pairwise_exporters ident
  refine ⟨fun ident => ⟨Exports.resolve_ofDocs_eq d ident, hpairwise ident⟩,
    Exports.size_namesInOrder fun _ => .refl _, fun order horder => ⟨?_, fun ident => ?_⟩,
    fun n => ⟨fun c signature => hkeyed.mem_exportsFor_iff, hkeyed.pairwise_exportsFor n,
      hkeyed.length_exportsFor_le, fun log i package id h hstate hfound hdocs hn => ?_⟩⟩
  · rw [Exports.size_namesInOrder horder]
    exact (Exports.size_namesInOrder fun _ => .refl _).symm
  · rw [Exports.resolve_namesInOrder horder, ← Exports.resolve_ofDocs_eq]
    exact List.mergeSort_of_pairwise ((hpairwise ident).imp And.left)
  · subst hdocs
    rw [Log.afterAll_waiting] at hstate
    obtain rfl := Log.index_of_state hstate
    have hheld := (Index.findHolding?_eq_some_iff.mp hfound).1
    have hexports : h.exports = Exports.ofDocs h.docs :=
      congrArg Holding.exports (Log.loads_of_get?_holdings hheld).2.1
    have hanswer := lookup_of_findHolding? base hfound hn
    rw [lookupIn_eq base hexports hkeyed] at hanswer
    refine ⟨hanswer, ?_⟩
    rw [← Docs.exportsFor_eq_nil_iff, hanswer, Except.ok.injEq, ite_eq_left_iff]
    refine ⟨fun hsame => by_contra fun hsome => ?_, fun hnone hsome => absurd hnone hsome⟩
    exact absurd (List.cons.inj (hsame hsome)).1 (by decide)

def jsonModules : List ModuleDocs := [
  ⟨"Json.Encode", [], TextMap.ofList [("int", ⟨"int", [], "Int -> Value"⟩),
    ("Value", ⟨"Value", [], "Value"⟩)]⟩,
  ⟨"Json.Decode", [], TextMap.ofList [("int", ⟨"int", [], "Decoder Int"⟩),
    ("map", ⟨"map", [], "(a -> b) -> Decoder a -> Decoder b"⟩)]⟩]

def jsonLoaded : Log := [.docsArrived ⟨"elm", "json", ⟨1, 1, 3⟩⟩ (Docs.ofModules jsonModules)]

theorem lookup_exporters_int :
    (Exports.ofDocs (.ofModules jsonModules)).size = 3 ∧
    (((((Docs.ofModules jsonModules).namesInOrder fun m => m.entries.keys.reverse).foldl
      Exports.add Exports.empty).resolve "int").mergeSort Name.le =
        [⟨"Json.Decode", "int"⟩, ⟨"Json.Encode", "int"⟩]) ∧
    ((Docs.ofModules jsonModules).exportsFor ⟨"Json.Encode", "int"⟩).length ≤ 1 ∧
    lookup "https://pkg.example" (.indexed jsonLoaded.index) " elm/json " ⟨[], "int"⟩ =
      .ok ("'int' in elm/json/1.1.3:\n\n".toList ++
        "`Json.Decode.int`\n   : Decoder Int\n   ".toList ++
        "https://pkg.example/packages/elm/json/1.1.3/Json-Decode#int\n\n".toList ++
        "`Json.Encode.int`\n   : Int -> Value\n   ".toList ++
        "https://pkg.example/packages/elm/json/1.1.3/Json-Encode#int\n\n".toList) := by
  let h := Holding.of ⟨"elm", "json", ⟨1, 1, 3⟩⟩ (Docs.ofModules jsonModules)
  have hstate : State.waiting.afterAll jsonLoaded = .indexed jsonLoaded.index :=
    (Log.afterAll_waiting jsonLoaded).trans rfl
  have htrim : Text.trim " elm/json " = "elm/json".toList := by decide +kernel
  have hfound : jsonLoaded.index.findHolding? (Text.trim " elm/json ") =
      some ("elm/json/1.1.3".toList, h) := by
    rw [htrim]
    rfl
  obtain ⟨hresolve, hsize, horder, hlookup⟩ :=
    lookup_exporters "https://pkg.example" (rfl : Docs.ofModules jsonModules = _)
  obtain ⟨-, hsorted⟩ := horder (fun m => m.entries.keys.reverse) fun m => List.reverse_perm _
  obtain ⟨-, -, honce, -⟩ := hlookup ⟨"Json.Encode", "int"⟩
  obtain ⟨-, -, -, hanswer⟩ := hlookup ⟨[], "int"⟩
  refine ⟨hsize.trans (by decide +kernel), (hsorted "int").trans ?_,
    honce (List.cons_ne_nil _ _), ?_⟩
  · rw [(hresolve "int").1]
    decide +kernel
  · rw [(hanswer _ _ " elm/json " _ h hstate hfound rfl (List.cons_ne_nil _ _)).1]
    decide +kernel

end Page

end DocIndex

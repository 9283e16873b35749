import DocIndex.Proofs.Docs.Exports
import DocIndex.Proofs.Text.Alphabet

/-!
What documentation keeps of the modules that a site serves: of modules with one name the last one,
and of a module's items with one key the last one, where values come first, then operators, aliases
and types. Keys are what directives list.
-/
namespace DocIndex

inductive Item where
  | value (v : ValueSource)
  | type (t : TypeSource)

namespace Item

def name : Item → Text
  | value v => v.name
  | type t => t.name

def comment : Item → Text
  | value v => v.comment
  | type t => t.comment

/-- The signature of a type is its name, and each argument after a space. -/
def signature : Item → Text
  | value v => v.signature
  | type t => t.name ++ t.args.flatMap fun arg => ' ' :: arg

def entry (i : Item) : Entry Text := ⟨entryKey i.name, i.comment, i.signature⟩

end Item

namespace TypeSource

theorem join_cons (t : Text) (ts : List Text) :
    Text.join [' '] (t :: ts) = t ++ ts.flatMap fun u => ' ' :: u := by
  induction ts generalizing t with
  | nil => simp [Text.join]
  | cons u ts ih =>
    have hu : [' '].intercalate (u :: ts) = u ++ ts.flatMap fun u => ' ' :: u := ih u
    rw [Text.join, List.intercalate_cons_cons, hu, List.flatMap_cons, List.append_assoc]
    rfl

theorem entry_eq (t : TypeSource) : t.entry = (Item.type t).entry := by
  rw [TypeSource.entry, join_cons]
  rfl

end TypeSource

namespace ModuleSource

def items (s : ModuleSource) : List Item :=
  s.values.map .value ++ s.operators.map .value ++ s.aliases.map .value ++ s.types.map .type

theorem entries_eq (s : ModuleSource) : s.entries = s.items.map Item.entry := by
  have htypes : s.types.map TypeSource.entry = s.types.map fun t => (Item.type t).entry :=
    List.map_congr_left fun t _ => t.entry_eq
  rw [entries, items, htypes]
  simp only [List.map_append, List.map_map]
  rfl

theorem entries_docs (s : ModuleSource) :
    s.docs.entries = TextMap.ofList (s.items.map fun i => (entryKey i.name, i.entry)) := by
  rw [docs, entries_eq, List.map_map]
  rfl

end ModuleSource

theorem Docs.modules_ofSources (ms : List ModuleSource) :
    (ofSources ms).modules = TextMap.ofList (ms.map fun s => (s.name, s.docs)) := by
  rw [ofSources, ofModules, List.map_map]
  rfl

theorem Docs.Keyed.map_name_values {d : Docs} (h : d.Keyed) :
    d.modules.values.map ModuleDocs.name = d.modules.keys := by
  rw [TextMap.values, TextMap.keys, List.map_map]
  refine List.map_congr_left fun p hp => ?_
  exact h p.1 p.2 (TextMap.get?_eq_some_iff.mpr hp)

theorem entryKey_entryKey (name : Text) : entryKey (entryKey name) = entryKey name := by
  have hcases : entryKey name = '(' :: name ++ [')'] ∨ entryKey name = name := by
    simp only [entryKey]
    exact ite_eq_or_eq ..
  rcases hcases with h | h
  · rw [h]
    simp [entryKey]
  · rw [h, h]

/-- The key of an operator is a name that directives may list. -/
theorem isIdentifier_entryKey {name : Text} (hne : name ≠ [])
    (h : ∀ c ∈ name, Text.isAlphanumeric c = false ∧ c ≠ '_' ∧ Text.isBlank c = false ∧
      c ≠ '(' ∧ c ≠ ')') : Directive.isIdentifier (entryKey name) = true := by
  have hsymbolic : name.all (fun c => !(Text.isAlphanumeric c || c = '_')) = true := by
    rw [List.all_eq_true]
    intro c hc
    simp [(h c hc).1, (h c hc).2.1]
  have hopen : name.head? ≠ some '(' := fun hhead =>
    (h '(' (List.mem_of_mem_head? hhead)).2.2.2.1 rfl
  have hkey : entryKey name = '(' :: name ++ [')'] := by
    rw [entryKey, hsymbolic]
    simp [hne, hopen]
  have hoperator : name.all Directive.isOperatorChar = true := by
    rw [List.all_eq_true]
    intro c hc
    obtain ⟨halphanumeric, hunderscore, hblank, hopen, hclose⟩ := h c hc
    have halphanum : c.isAlphanum = false := by
      rw [← Bool.not_eq_true]
      intro hc
      rw [Text.isAlphanumeric_of_isAlphanum hc] at halphanumeric
      cases halphanumeric
    simp [Directive.isOperatorChar, Directive.isWordChar, hblank, halphanum, hunderscore, hopen,
      hclose]
  rw [hkey]
  simp [Directive.isIdentifier, hoperator, hne]

/-- What is kept of served modules. There is one module of each name, and it is the last one with
this name. Its entries are those of its items, where of the items with one key the last one counts.
Keys do not change when they are made keys again, and those of operators may be listed. -/
theorem Docs.ofSources_last :
    (∀ ms : List ModuleSource,
      ((ofSources ms).modules.values.map ModuleDocs.name).Perm (ms.map ModuleSource.name).dedup ∧
      ∀ home m, (ofSources ms).modules.get? home = some m ↔
        ∃ s, TextMap.LastWith (fun s => s.name = home) ms s ∧ s.docs = m) ∧
    (∀ s : ModuleSource, s.docs.name = s.name ∧ s.docs.comment = s.comment ∧ ∀ key,
      ((∃ e, s.docs.entries.get? key = some e) ↔ ∃ i ∈ s.items, entryKey i.name = key) ∧
      ∀ e, s.docs.entries.get? key = some e ↔
        ∃ i, TextMap.LastWith (fun i => entryKey i.name = key) s.items i ∧
          e = ⟨key, i.comment, i.signature⟩) ∧
    (∀ name, entryKey (entryKey name) = entryKey name) ∧
    ∀ name : Text, name ≠ [] →
      (∀ c ∈ name, Text.isAlphanumeric c = false ∧ c ≠ '_' ∧ Text.isBlank c = false ∧
        c ≠ '(' ∧ c ≠ ')') → Directive.isIdentifier (entryKey name) = true := by
  refine ⟨fun ms => ⟨?_, fun home m => ?_⟩, fun s => ⟨rfl, rfl, fun key => ⟨?_, fun e => ?_⟩⟩,
    entryKey_entryKey, fun name => isIdentifier_entryKey⟩
  · have hkeyed : (ofSources ms).Keyed := keyed_ofModules _
    rw [hkeyed.map_name_values, modules_ofSources]
    exact TextMap.perm_keys_ofList_map
  · rw [modules_ofSources]
    exact TextMap.get?_ofList_map_eq_some_iff
  · rw [← Option.isSome_iff_exists, ← TextMap.mem_keys_iff, ModuleSource.entries_docs]
    exact TextMap.mem_keys_ofList_map
  · rw [ModuleSource.entries_docs, TextMap.get?_ofList_map_eq_some_iff]
    refine exists_congr fun i => and_congr_right fun hlast => ?_
    obtain ⟨-, -, -, hkey, -⟩ := hlast
    rw [Item.entry, hkey]
    exact eq_comm

/-- An operator that is no ASCII character. -/
theorem Docs.ofSources_last_circledPlus :
    "⊕".toList ≠ [] ∧
    (∀ c ∈ "⊕".toList, Text.isAlphanumeric c = false ∧ c ≠ '_' ∧ Text.isBlank c = false ∧
      c ≠ '(' ∧ c ≠ ')') ∧
    Directive.isIdentifier (entryKey "⊕") = true := by
  have hne : "⊕".toList ≠ [] := by decide
  have hsymbol : ∀ c ∈ "⊕".toList, Text.isAlphanumeric c = false ∧ c ≠ '_' ∧
      Text.isBlank c = false ∧ c ≠ '(' ∧ c ≠ ')' := by
    intro c hc
    obtain rfl : c = '⊕' := List.mem_singleton.mp hc
    decide +kernel
  exact ⟨hne, hsymbol, ofSources_last.2.2.2 _ hne hsymbol⟩

end DocIndex

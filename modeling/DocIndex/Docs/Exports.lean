import DocIndex.Docs.Basic

/-!
Which modules of a package export an identifier.
-/
namespace DocIndex

/-- The qualified names of a package under their identifiers. -/
structure Exports where
  names : TextMap (List Name)

/-- The qualified names of all entries, module by module in ascending order. -/
def Docs.exportedNames (d : Docs) : List Name :=
  d.modules.values.flatMap fun m => m.entries.keys.map fun key => ⟨m.name, key⟩

namespace Exports

def empty : Exports := ⟨TextMap.empty⟩

def resolve (e : Exports) (ident : Text) : List Name := (e.names.get? ident).getD []

def add (e : Exports) (n : Name) : Exports :=
  ⟨e.names.insert n.ident (e.resolve n.ident ++ [n])⟩

def ofDocs (d : Docs) : Exports := d.exportedNames.foldl add empty

def size (e : Exports) : Nat := e.names.size

theorem resolve_add (e : Exports) (n : Name) (ident : Text) :
    (e.add n).resolve ident = e.resolve ident ++ if n.ident = ident then [n] else [] := by
  unfold resolve add
  simp only [TextMap.get?_insert]
  split
  next h => simp [resolve, h]
  next => simp

end Exports

end DocIndex

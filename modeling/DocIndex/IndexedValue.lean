import DocIndex.Directive
import DocIndex.Docs.Basic
import DocIndex.Signature.Canonical
import DocIndex.Signature.Reader

/-!
The values that can be found: every name that a directive lists and that has an entry.
-/
namespace DocIndex

structure IndexedValue where
  /-- The identifier of the release. -/
  package : Text
  name : Name
  /-- The entry with the type as it is written. -/
  entry : Entry Ty
  /-- The canonical form of the type, which queries are compared with. -/
  canonical : Ty

def IndexedValue.ofEntry (package home ident : Text) (e : Entry Text) : IndexedValue :=
  let entry := e.mapSignature Ty.ofSignature
  ⟨package, ⟨home, ident⟩, entry, entry.signature.normalize⟩

/-- The values of a module in the order in which its comment lists them. -/
def ModuleDocs.values (package : Text) (m : ModuleDocs) : List IndexedValue :=
  (Directive.documentedNames Directive.isIdentifier m.comment).filterMap fun ident =>
    (m.entries.get? ident).map (IndexedValue.ofEntry package m.name ident)

def Docs.values (package : Text) (d : Docs) : List IndexedValue :=
  d.modules.values.flatMap (ModuleDocs.values package)

end DocIndex

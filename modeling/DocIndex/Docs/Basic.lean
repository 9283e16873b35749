import DocIndex.Name
import DocIndex.Text.TextMap

/-!
The documentation of a package: its modules by name, and the entries of a module by key.
-/
namespace DocIndex

/-- One documented value. The signature is a text at first and a type in the index. -/
structure Entry (σ : Type) where
  name : Text
  comment : Text
  signature : σ
  deriving DecidableEq, Repr

def Entry.mapSignature {σ τ : Type} (f : σ → τ) (e : Entry σ) : Entry τ :=
  ⟨e.name, e.comment, f e.signature⟩

structure ModuleDocs where
  name : Text
  comment : Text
  entries : TextMap (Entry Text)

structure Docs where
  modules : TextMap ModuleDocs

/-- The documentation with the given modules; of two with the same name the later one counts. -/
def Docs.ofModules (ms : List ModuleDocs) : Docs :=
  ⟨TextMap.ofList (ms.map fun m => (m.name, m))⟩

end DocIndex

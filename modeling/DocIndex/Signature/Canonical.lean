import DocIndex.Signature.Basic

/-!
The canonical form of a type: its free variables are renamed to `a`, `b`, `c`, … in order of first
appearance. A variable whose name starts with the name of a constraint keeps its name.
-/
namespace DocIndex.Ty

/-- The starts of names that constrain what a variable stands for. -/
def constraints : List Text := ["number", "comparable", "appendable", "compappend"]

def isConstrained (name : Text) : Bool := constraints.any fun c => c.isPrefixOf name

/-- The canonical variable names: the letters, then each letter with 1, then with 2, and so on. -/
def canonicalName (i : Nat) : Text :=
  Char.ofNat ('a'.toNat + i % 26) :: (if i / 26 = 0 then [] else Text.ofNat (i / 26))

/-- The unconstrained variables of a type, each once, in order of first appearance. -/
def freeVars (t : Ty) : List Text := (t.vars.filter fun v => !isConstrained v).eraseDups

def canonicalVar (free : List Text) (v : Text) : Text :=
  if isConstrained v then v else canonicalName (free.idxOf v)

def normalize (t : Ty) : Ty := t.rename (canonicalVar t.freeVars)

end DocIndex.Ty

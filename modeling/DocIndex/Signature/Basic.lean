import DocIndex.Text.Basic

/-!
Type signatures as trees, their variables in order of appearance, the renaming of variables, and
the text that displays them.
-/
namespace DocIndex

/-- A type signature. The empty tuple is the unit type; a record may extend a type variable. -/
inductive Ty where
  | var (name : Text)
  | apply (head : Text) (args : List Ty)
  | function (args : List Ty) (result : Ty)
  | tuple (items : List Ty)
  | record (fields : List (Text × Ty)) (base : Option Text)
  deriving Inhabited

namespace Ty

def isVar : Ty → Bool
  | .var _ => true
  | _ => false

def isFunction : Ty → Bool
  | .function _ _ => true
  | _ => false

/-- Whether the displayed type needs parentheses as an argument of a constructor. -/
def isCompound : Ty → Bool
  | .function _ _ => true
  | .apply _ (_ :: _) => true
  | _ => false

mutual

/-- The variables in order of appearance. The variable that a record extends comes before those of
its fields, the arguments of a function before its result. -/
def vars : Ty → List Text
  | .var name => [name]
  | .apply _ args => varsAll args
  | .function args result => varsAll args ++ result.vars
  | .tuple items => varsAll items
  | .record fields base => base.toList ++ varsFields fields

def varsAll : List Ty → List Text
  | [] => []
  | t :: ts => t.vars ++ varsAll ts

def varsFields : List (Text × Ty) → List Text
  | [] => []
  | (_, t) :: fields => t.vars ++ varsFields fields

end

mutual

def rename (f : Text → Text) : Ty → Ty
  | .var name => .var (f name)
  | .apply head args => .apply head (renameAll f args)
  | .function args result => .function (renameAll f args) (result.rename f)
  | .tuple items => .tuple (renameAll f items)
  | .record fields base => .record (renameFields f fields) (base.map f)

def renameAll (f : Text → Text) : List Ty → List Ty
  | [] => []
  | t :: ts => t.rename f :: renameAll f ts

def renameFields (f : Text → Text) : List (Text × Ty) → List (Text × Ty)
  | [] => []
  | (field, t) :: fields => (field, t.rename f) :: renameFields f fields

end

def enclose (needed : Bool) (t : Text) : Text := if needed then '(' :: t ++ [')'] else t

mutual

/-- The displayed type. Arguments of a constructor are enclosed when they are functions or applied
constructors, arguments of a function only when they are functions. -/
def text : Ty → Text
  | .var name => name
  | .apply head args => head ++ argTexts args
  | .function args result => paramTexts args ++ result.text
  | .tuple items => '(' :: Text.join ", " (itemTexts items) ++ [')']
  | .record fields base =>
    '\x7b' :: (base.elim [] fun v => ' ' :: v ++ " |".toList)
      ++ (if fields.isEmpty then [] else ' ' :: Text.join ", " (fieldTexts fields))
      ++ " \x7d".toList

def argTexts : List Ty → Text
  | [] => []
  | t :: ts => ' ' :: enclose t.isCompound t.text ++ argTexts ts

def paramTexts : List Ty → Text
  | [] => []
  | t :: ts => enclose t.isFunction t.text ++ " -> ".toList ++ paramTexts ts

def itemTexts : List Ty → List Text
  | [] => []
  | t :: ts => t.text :: itemTexts ts

def fieldTexts : List (Text × Ty) → List Text
  | [] => []
  | (field, t) :: fields => (field ++ " : ".toList ++ t.text) :: fieldTexts fields

end

@[simp] theorem renameAll_eq_map (f : Text → Text) : ∀ ts : List Ty,
    renameAll f ts = ts.map (rename f)
  | [] => rfl
  | t :: ts => by simp [renameAll, renameAll_eq_map f ts]

@[simp] theorem itemTexts_eq_map : ∀ ts : List Ty, itemTexts ts = ts.map text
  | [] => rfl
  | t :: ts => by simp [itemTexts, itemTexts_eq_map ts]

end Ty

end DocIndex

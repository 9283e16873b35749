import DocIndex.Signature.Reader

/-!
The grammar of signatures, over tokens.

    type ::= app ('->' app)*
    app  ::= atom | constructor atom atom*
    atom ::= identifier | '(' ')' | '(' type (',' type)* ')' | '{' '}'
           | '{' [identifier '|'] field (',' field)* '}'
    field ::= identifier ':' type

A constructor may stand in parentheses of its own. What is nested, a type in parentheses or the type
of a field, is a type of one level less, so the phrases of one level are over the types nested in
them.
-/
namespace DocIndex.Ty

open Token

inductive Separated {α : Type} (separator : Token) (Item : List Token → α → Prop) :
    List Token → List α → Prop where
  | one {ts : List Token} {x : α} (h : Item ts x) : Separated separator Item ts [x]
  | cons {ts us : List Token} {x : α} {xs : List α} (h : Item ts x)
      (hs : Separated separator Item us xs) :
      Separated separator Item (ts ++ separator :: us) (x :: xs)

inductive Adjacent {α : Type} (Item : List Token → α → Prop) : List Token → List α → Prop where
  | nil : Adjacent Item [] []
  | cons {ts us : List Token} {x : α} {xs : List α} (h : Item ts x) (hs : Adjacent Item us xs) :
      Adjacent Item (ts ++ us) (x :: xs)

/-- A constructor in at most so many pairs of parentheses. -/
inductive Constructor : Nat → List Token → Text → Prop where
  | bare {levels : Nat} {name : Text} (h : namesConstructor name = true) :
      Constructor levels [.ident name] name
  | enclosed {levels : Nat} {ts : List Token} {name : Text} (h : Constructor levels ts name) :
      Constructor (levels + 1) (.openParen :: (ts ++ [.closeParen])) name

section

variable (Nested : List Token → Ty → Prop)

inductive Field : List Token → Text × Ty → Prop where
  | mk {name : Text} {ts : List Token} {t : Ty} (h : Nested ts t) :
      Field (.ident name :: .colon :: ts) (name, t)

inductive Atom : List Token → Ty → Prop where
  | var {name : Text} (h : namesConstructor name = false) : Atom [.ident name] (.var name)
  | constructor {name : Text} (h : namesConstructor name = true) :
      Atom [.ident name] (.apply name [])
  | unit : Atom [.openParen, .closeParen] (.tuple [])
  | enclosed {ts : List Token} {t : Ty} (h : Nested ts t) :
      Atom (.openParen :: (ts ++ [.closeParen])) t
  | tuple {ts : List Token} {items : List Ty} (h : Separated .comma Nested ts items)
      (several : 2 ≤ items.length) : Atom (.openParen :: (ts ++ [.closeParen])) (.tuple items)
  | emptyRecord : Atom [.openBrace, .closeBrace] (.record [] none)
  | record {ts : List Token} {fields : List (Text × Ty)}
      (h : Separated .comma (Field Nested) ts fields) :
      Atom (.openBrace :: (ts ++ [.closeBrace])) (.record fields none)
  | extension {base : Text} {ts : List Token} {fields : List (Text × Ty)}
      (h : Separated .comma (Field Nested) ts fields) :
      Atom (.openBrace :: .ident base :: .pipe :: (ts ++ [.closeBrace]))
        (.record fields (some base))

inductive Applied (levels : Nat) : List Token → Ty → Prop where
  | atom {ts : List Token} {t : Ty} (h : Atom Nested ts t) : Applied levels ts t
  | apply {ts us : List Token} {name : Text} {args : List Ty} (h : Constructor levels ts name)
      (hs : Adjacent (Atom Nested) us args) (hne : args ≠ []) :
      Applied levels (ts ++ us) (.apply name args)

/-- Applied types with arrows between them: one is itself, of several the last one is the result of
a function of the others. -/
inductive Arrows (levels : Nat) : List Token → Ty → Prop where
  | one {ts : List Token} {t : Ty} (h : Applied Nested levels ts t) : Arrows levels ts t
  | function {ts : List Token} {args : List Ty} {result : Ty}
      (h : Separated .arrow (Applied Nested levels) ts (args ++ [result])) (hne : args ≠ []) :
      Arrows levels ts (.function args result)

end

/-- The tokens make up the type, which nests at most so many levels, the outermost one counted. -/
def Derives : Nat → List Token → Ty → Prop
  | 0 => fun _ _ => False
  | levels + 1 => Arrows (Derives levels) levels

theorem Separated.imp {α : Type} {separator : Token} {P Q : List Token → α → Prop}
    (h : ∀ {ts x}, P ts x → Q ts x) {ts : List Token} {xs : List α}
    (hs : Separated separator P ts xs) : Separated separator Q ts xs := by
  induction hs with
  | one hx => exact .one (h hx)
  | cons hx _ ih => exact .cons (h hx) ih

theorem Adjacent.imp {α : Type} {P Q : List Token → α → Prop} (h : ∀ {ts x}, P ts x → Q ts x)
    {ts : List Token} {xs : List α} (hs : Adjacent P ts xs) : Adjacent Q ts xs := by
  induction hs with
  | nil => exact .nil
  | cons hx _ ih => exact .cons (h hx) ih

theorem Constructor.succ {levels : Nat} {ts : List Token} {name : Text}
    (h : Constructor levels ts name) : Constructor (levels + 1) ts name := by
  induction h with
  | bare h => exact .bare h
  | enclosed _ ih => exact .enclosed ih

section

variable {P Q : List Token → Ty → Prop} {levels : Nat} {ts : List Token}

theorem Field.imp (h : ∀ {ts t}, P ts t → Q ts t) {f : Text × Ty} (hf : Field P ts f) :
    Field Q ts f := by
  cases hf with
  | mk ht => exact .mk (h ht)

theorem Atom.imp (h : ∀ {ts t}, P ts t → Q ts t) {t : Ty} (ht : Atom P ts t) : Atom Q ts t := by
  cases ht with
  | var hn => exact .var hn
  | constructor hn => exact .constructor hn
  | unit => exact .unit
  | enclosed hx => exact .enclosed (h hx)
  | tuple hs several => exact .tuple (hs.imp h) several
  | emptyRecord => exact .emptyRecord
  | record hs => exact .record (hs.imp (Field.imp h))
  | extension hs => exact .extension (hs.imp (Field.imp h))

theorem Applied.succ (h : ∀ {ts t}, P ts t → Q ts t) {t : Ty} (ht : Applied P levels ts t) :
    Applied Q (levels + 1) ts t := by
  cases ht with
  | atom ha => exact .atom (ha.imp h)
  | apply hc hs hne => exact .apply hc.succ (hs.imp (Atom.imp h)) hne

theorem Arrows.succ (h : ∀ {ts t}, P ts t → Q ts t) {t : Ty} (ht : Arrows P levels ts t) :
    Arrows Q (levels + 1) ts t := by
  cases ht with
  | one ha => exact .one (ha.succ h)
  | function hs hne => exact .function (hs.imp (Applied.succ h)) hne

end

theorem Derives.succ {levels : Nat} {ts : List Token} {t : Ty} (h : Derives levels ts t) :
    Derives (levels + 1) ts t := by
  induction levels generalizing ts t with
  | zero => cases h
  | succ levels ih => exact Arrows.succ ih h

/-- A type that nests few levels nests at most any larger number. -/
theorem Derives.mono {levels more : Nat} (hle : levels ≤ more) {ts : List Token} {t : Ty}
    (h : Derives levels ts t) : Derives more ts t := by
  induction hle with
  | refl => exact h
  | step _ ih => exact ih.succ

end DocIndex.Ty

/-
This file holds code points: the characters, and the surrogates, which are code
points but no characters. Surrogates only come from escapes that stand alone.
-/

namespace Tangle.Text

/-- A character, or a surrogate that stands alone. -/
inductive CodePoint where
  | scalar (c : Char)
  | surrogate (unit : Nat)
deriving DecidableEq

namespace CodePoint

def value : CodePoint → Nat
  | scalar c => c.toNat
  | surrogate unit => unit

/-- The code points of a text. -/
def ofString (text : String) : List CodePoint :=
  text.toList.map scalar

/-- The text of some code points, if all of them are characters. -/
def toString? (points : List CodePoint) : Option String :=
  (points.mapM fun
    | scalar c => some c
    | surrogate _ => none).map String.ofList

/-- Compares by the values of the code points, a proper beginning coming first. -/
def lexLe : List CodePoint → List CodePoint → Bool
  | [], _ => true
  | _ :: _, [] => false
  | a :: as, b :: bs =>
    if a.value < b.value then true else if b.value < a.value then false else lexLe as bs

end CodePoint

end Tangle.Text

/-
This file holds JSON values. Whole numbers have no size limit and are kept apart
from binary64 numbers; objects keep the order of their members; strings may hold
surrogates that stand alone, because the notation can spell them.
-/

import Tangle.Binary64
import Tangle.Text.CodePoint

namespace Tangle

open Text (CodePoint)

/-- A JSON value. -/
inductive Json where
  | null
  | bool (value : Bool)
  | int (value : Int)
  | float (value : Binary64)
  | str (text : List CodePoint)
  | arr (items : List Json)
  | obj (members : List (List CodePoint × Json))

namespace Json

/-- A string value. -/
def string (text : String) : Json := str (CodePoint.ofString text)

/-- A string value from its characters. -/
def chars (text : List Char) : Json := str (text.map .scalar)

/-- A whole number from a count. -/
def nat (value : Nat) : Json := int value

/-- An object with the given members. -/
def object (members : List (String × Json)) : Json :=
  obj (members.map fun (key, value) => (CodePoint.ofString key, value))

/-- A value or null. -/
def option (encode : α → Json) : Option α → Json
  | some value => encode value
  | none => null

/-- The member of an object with the given key. -/
def get? (json : Json) (key : String) : Option Json :=
  match json with
  | obj members => (members.find? (·.1 == CodePoint.ofString key)).map (·.2)
  | _ => none

/-- Whether a value counts as something: null, false, zero and what is empty do not. -/
def isTruthy : Json → Bool
  | null => false
  | bool value => value
  | int value => value != 0
  | float (.finite _ mantissa _) => mantissa != 0
  | float _ => true
  | str text => !text.isEmpty
  | arr items => !items.isEmpty
  | obj members => !members.isEmpty

end Json

end Tangle

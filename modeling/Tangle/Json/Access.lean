/-
This file takes JSON values apart: each function gives what a value holds, if it
is of the right kind.
-/

import Tangle.Json

namespace Tangle.Json

open Text (CodePoint)

def string? : Json → Option String
  | str text => CodePoint.toString? text
  | _ => none

def int? : Json → Option Int
  | int value => some value
  | _ => none

def nat? : Json → Option Nat
  | int value => if 0 ≤ value then some value.toNat else none
  | _ => none

def bool? : Json → Option Bool
  | bool value => some value
  | _ => none

def items? : Json → Option (List Json)
  | arr items => some items
  | _ => none

def members? : Json → Option (List (List CodePoint × Json))
  | obj members => some members
  | _ => none

/-- The member of an object, where null counts as absent. -/
def present? (json : Json) (key : String) : Option Json :=
  match json.get? key with
  | some null => none
  | found => found

def stringAt? (json : Json) (key : String) : Option String :=
  (json.present? key).bind string?

def intAt? (json : Json) (key : String) : Option Int :=
  (json.present? key).bind int?

def natAt? (json : Json) (key : String) : Option Nat :=
  (json.present? key).bind nat?

def boolAt? (json : Json) (key : String) : Option Bool :=
  (json.present? key).bind bool?

/-- The items of an array in an object, none if it is absent. -/
def itemsAt (json : Json) (key : String) : List Json :=
  ((json.present? key).bind items?).getD []

end Tangle.Json

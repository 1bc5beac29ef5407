/-
This file writes JSON values as they appear in messages and table cells: strings
in quotes, with words of their own for the constants. A value with an integer that
is too long cannot be shown.
-/

import Tangle.Binary64.Shortest
import Tangle.Json
import Tangle.Text.Numeral
import Tangle.Text.Quoted

namespace Tangle.Json

open Text (CodePoint)

/-- The words for the numbers that are not finite. -/
def spokenWords : Binary64.Words := ⟨"nan", "inf"⟩

mutual

/-- A value as it is quoted in a message, unless an integer in it has too many digits. -/
def describe? : Json → Option (List Char)
  | .null => some "None".toList
  | .bool true => some "True".toList
  | .bool false => some "False".toList
  | .int value => Text.numeral? value
  | .float value => some (value.text spokenWords)
  | .str text => some (Text.quote text)
  | .arr items => do pure ('[' :: (← describeItems? items) ++ [']'])
  | .obj members => do pure ('\x7b' :: (← describeMembers? members) ++ ['\x7d'])

def describeItems? : List Json → Option (List Char)
  | [] => some []
  | [item] => describe? item
  | item :: rest => do pure ((← describe? item) ++ ',' :: ' ' :: (← describeItems? rest))

def describeMembers? : List (List CodePoint × Json) → Option (List Char)
  | [] => some []
  | [(key, value)] => do pure (Text.quote key ++ ':' :: ' ' :: (← describe? value))
  | (key, value) :: rest => do
    pure (Text.quote key ++ ':' :: ' ' :: (← describe? value) ++
      ',' :: ' ' :: (← describeMembers? rest))

end

/-- A value as it stands in a table cell: like in a message, but text goes without quotes. -/
def display? (json : Json) : Option String :=
  match json with
  | .str text => some ((CodePoint.toString? text).getD (String.ofList (Text.quote text)))
  | json => json.describe?.map String.ofList

end Tangle.Json

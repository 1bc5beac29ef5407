/-
This file writes JSON. Members are sorted by key, nesting is shown by two spaces,
and every character outside the printable ASCII range is escaped, so the text is
one for all orders of the members. A value with an integer that is too long has
no text; a second writer, without that limit, is for the results of the program
itself. Values may be nested to any depth: the stack on which they are written is
not part of the model.
-/

import Tangle.Binary64.Shortest
import Tangle.Json
import Tangle.Text.Hex
import Tangle.Text.Numeral

namespace Tangle.Json

open Text (CodePoint)

/-! ### Strings -/

/-- A code unit of sixteen bits as an escape. -/
def escapeUnit (unit : Nat) : List Char :=
  '\\' :: 'u' :: Text.hexFixed 4 unit

/-- A code point as an escape; above `FFFF` as a pair of surrogates. -/
def escapePoint (code : Nat) : List Char :=
  if code < 0x10000 then escapeUnit code
  else
    escapeUnit (0xD800 + (code - 0x10000) / 0x400) ++ escapeUnit (0xDC00 + (code - 0x10000) % 0x400)

/-- One code point of a string. -/
def renderPoint : CodePoint → List Char
  | .surrogate unit => escapeUnit unit
  | .scalar c =>
    match c with
    | '"' => ['\\', '"']
    | '\\' => ['\\', '\\']
    | '\n' => ['\\', 'n']
    | '\r' => ['\\', 'r']
    | '\t' => ['\\', 't']
    | '\x08' => ['\\', 'b']
    | '\x0c' => ['\\', 'f']
    | _ => if ' ' ≤ c && c ≤ '~' then [c] else escapePoint c.toNat

/-- A string in double quotes. -/
def renderString (text : List CodePoint) : List Char :=
  '"' :: text.flatMap renderPoint ++ ['"']

/-! ### Order of members -/

mutual

/-- The value with the members of all objects sorted by key. -/
def sorted : Json → Json
  | .arr items => .arr (sortedItems items)
  | .obj members => .obj ((sortedMembers members).mergeSort fun a b => CodePoint.lexLe a.1 b.1)
  | json => json

def sortedItems : List Json → List Json
  | [] => []
  | item :: rest => sorted item :: sortedItems rest

def sortedMembers : List (List CodePoint × Json) → List (List CodePoint × Json)
  | [] => []
  | (key, value) :: rest => (key, sorted value) :: sortedMembers rest

end

/-! ### Layout -/

/-- A new line, indented for the given depth. -/
def newLine (depth : Nat) : List Char :=
  '\n' :: List.replicate (2 * depth) ' '

/-- The words for the numbers that JSON proper has no notation for. -/
def words : Binary64.Words := ⟨"NaN", "Infinity"⟩

/-! ### Values -/

section

variable {m : Type → Type} [Monad m] (number : Int → m (List Char))

mutual

/-- Writes a value that stands at the given depth, and the text `behind` it. Whole numbers are
written by `number`. -/
def writeBefore (depth : Nat) (behind : List Char) : Json → m (List Char)
  | .null => pure ("null".toList ++ behind)
  | .bool true => pure ("true".toList ++ behind)
  | .bool false => pure ("false".toList ++ behind)
  | .int value => do pure ((← number value) ++ behind)
  | .float value => pure (value.text words ++ behind)
  | .str text => pure (renderString text ++ behind)
  | .arr [] => pure ('[' :: ']' :: behind)
  | .arr (first :: rest) => do
    let others ← writeItems (depth + 1) (newLine depth ++ ']' :: behind) rest
    pure ('[' :: (newLine (depth + 1) ++ (← writeBefore (depth + 1) others first)))
  | .obj [] => pure ('\x7b' :: '\x7d' :: behind)
  | .obj ((key, value) :: rest) => do
    let others ← writeMembers (depth + 1) (newLine depth ++ '\x7d' :: behind) rest
    pure ('\x7b' :: (newLine (depth + 1) ++ renderString key ++
      ':' :: ' ' :: (← writeBefore (depth + 1) others value)))

/-- Writes the items after the first, each on a line of its own, and the text `behind` them. -/
def writeItems (depth : Nat) (behind : List Char) : List Json → m (List Char)
  | [] => pure behind
  | item :: rest => do
    let others ← writeItems depth behind rest
    pure (',' :: (newLine depth ++ (← writeBefore depth others item)))

/-- Writes the members after the first, each on a line of its own, and the text `behind` them. -/
def writeMembers (depth : Nat) (behind : List Char) :
    List (List CodePoint × Json) → m (List Char)
  | [] => pure behind
  | (key, value) :: rest => do
    let others ← writeMembers depth behind rest
    pure (',' :: (newLine depth ++ renderString key ++
      ':' :: ' ' :: (← writeBefore depth others value)))

end

end

/-- The text of a value, unless an integer in it has too many digits. -/
def text? (json : Json) : Option String := do
  pure (String.ofList (← writeBefore Text.numeral? 0 [] json.sorted))

/-- A value on its own, as it stands, with integers of any size. -/
def render (json : Json) : List Char :=
  Id.run (writeBefore (m := Id) Text.numeral 0 [] json)

/-- The text of a value, with integers of any size. -/
def text (json : Json) : String :=
  String.ofList json.sorted.render

end Tangle.Json

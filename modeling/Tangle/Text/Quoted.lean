/-
This file quotes text for messages. Single quotes are preferred; double quotes
are taken when that saves escaping. What cannot be shown is escaped.
-/

import Tangle.Text.CodePoint
import Tangle.Text.Hex
import Tangle.Text.Printable

namespace Tangle.Text

/-- The escape of a code point by its number, as short as the number allows. -/
def escapeByNumber (code : Nat) : List Char :=
  if code < 0x100 then '\\' :: 'x' :: hexFixed 2 code
  else if code < 0x10000 then '\\' :: 'u' :: hexFixed 4 code
  else '\\' :: 'U' :: hexFixed 8 code

/-- One code point between the given quotes. -/
def quotePoint (mark : Char) : CodePoint → List Char
  | .surrogate unit => escapeByNumber unit
  | .scalar c =>
    if c = mark || c = '\\' then ['\\', c]
    else if c = '\n' then ['\\', 'n']
    else if c = '\r' then ['\\', 'r']
    else if c = '\t' then ['\\', 't']
    else if isPrintable c.toNat then [c]
    else escapeByNumber c.toNat

/-- The quotes for a text: double ones if it holds a single quote and no double one. -/
def quoteMark (points : List CodePoint) : Char :=
  if points.contains (.scalar '\'') && !points.contains (.scalar '"') then '"' else '\''

/-- A text in quotes. -/
def quote (points : List CodePoint) : List Char :=
  let mark := quoteMark points
  mark :: points.flatMap (quotePoint mark) ++ [mark]

/-- A string in quotes. -/
def quoted (text : String) : String :=
  String.ofList (quote (CodePoint.ofString text))

end Tangle.Text

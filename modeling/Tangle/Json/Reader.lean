/-
This file reads JSON. The notation is the strict one, but for the words `NaN`,
`Infinity` and `-Infinity`: no comments, no trailing commas, nothing behind the
value, no raw control characters in strings. A number is whole unless it has a
fraction or an exponent. A key that comes twice keeps its first place and takes
its last value. A whole number may not have too many digits. Values may be nested
to any depth: the stack on which they are read is not part of the model.

A fault is told by what was expected and where.
-/

import Tangle.Json
import Tangle.Ordered
import Tangle.Text.Hex
import Tangle.Text.Numeral
import Tangle.Text.Slice

namespace Tangle.Json

open Text (CodePoint)

/-! ### Faults -/

/-- What keeps a text from being JSON. -/
inductive Fault where
  | expectingValue
  | expectingName
  | expectingColon
  | expectingComma
  | unterminatedString
  | controlCharacter
  | unknownEscape
  | brokenUnicodeEscape
  | extraData
  | byteOrderMark
  | tooManyDigits (count : Nat)
deriving DecidableEq

/-- What is said of a whole number with too many digits. -/
def digitsMessage (count : Nat) : String :=
  let limit := Text.longestNumeral
  s!"Exceeds the limit ({limit} digits) for integer string conversion: value has {count} digits; " ++
    "use sys.set_int_max_str_digits() to increase the limit"

def Fault.description : Fault → String
  | expectingValue => "Expecting value"
  | expectingName => "Expecting property name enclosed in double quotes"
  | expectingColon => "Expecting ':' delimiter"
  | expectingComma => "Expecting ',' delimiter"
  | unterminatedString => "Unterminated string starting at"
  | controlCharacter => "Invalid control character at"
  | unknownEscape => "Invalid \\escape"
  | brokenUnicodeEscape => "Invalid \\uXXXX escape"
  | extraData => "Extra data"
  | byteOrderMark => "Unexpected UTF-8 BOM (decode using utf-8-sig)"
  | tooManyDigits count => digitsMessage count

/-- A fault and how many characters there are from it to the end of the text. -/
structure ReadError where
  fault : Fault
  remaining : Nat
deriving DecidableEq

/-- What was expected and where, in lines, columns and characters. -/
def ReadError.message (error : ReadError) (input : List Char) : String :=
  let offset := input.length - error.remaining
  let before := input.take offset
  let line := before.count '\n' + 1
  let column := (Text.afterLast '\n' before).length + 1
  let description := error.fault.description
  s!"{description}: line {line} column {column} (char {offset})"

/-- What reading a part gives: its value and the rest of the text. -/
abbrev Read (α : Type) := Except ReadError (α × List Char)

/-- The fault stands at the head of `rest`. -/
def faultAt (fault : Fault) (rest : List Char) : Except ReadError α :=
  .error ⟨fault, rest.length⟩

/-- Blanks between the parts of a value. -/
def isSpace (c : Char) : Bool :=
  c == ' ' || c == '\t' || c == '\n' || c == '\r'

def skipSpace (text : List Char) : List Char :=
  text.dropWhile isSpace

/-! ### Strings -/

/-- A character as it stands, or the number of an escape. -/
inductive StringUnit where
  | plain (c : Char)
  | escaped (unit : Nat)

/-- The value of four hexadecimal digits. -/
def hexUnit? (a b c d : Char) : Option Nat := do
  let first ← Text.hexValue? a
  let second ← Text.hexValue? b
  let third ← Text.hexValue? c
  let fourth ← Text.hexValue? d
  pure (((first * 16 + second) * 16 + third) * 16 + fourth)

/-- What a backslash followed by the given letter stands for. -/
def simpleEscape? : Char → Option Char
  | '"' => some '"'
  | '\\' => some '\\'
  | '/' => some '/'
  | 'b' => some '\x08'
  | 'f' => some '\x0c'
  | 'n' => some '\n'
  | 'r' => some '\r'
  | 't' => some '\t'
  | _ => none

/-- Reads up to the closing quote, behind the units already `seen` in reverse. `opened` is the text
from the opening quote on. -/
def readUnits (opened : List Char) (seen : List StringUnit) : List Char → Read (List StringUnit)
  | [] => faultAt .unterminatedString opened
  | '"' :: rest => .ok (seen.reverse, rest)
  | '\\' :: rest =>
    match rest with
    | [] => faultAt .unterminatedString opened
    | 'u' :: digits =>
      match digits with
      | a :: b :: c :: d :: behind =>
        match behind, hexUnit? a b c d with
        | _ :: _, some unit => readUnits opened (.escaped unit :: seen) behind
        | _, _ => faultAt .brokenUnicodeEscape rest
      | _ => faultAt .brokenUnicodeEscape rest
    | letter :: behind =>
      match simpleEscape? letter with
      | some c => readUnits opened (.plain c :: seen) behind
      | none => faultAt .unknownEscape ('\\' :: rest)
  | c :: rest =>
    if c.toNat ≤ 0x1F then faultAt .controlCharacter (c :: rest)
    else readUnits opened (.plain c :: seen) rest

/-- The code point of an escape that has no partner. -/
def loneUnit (unit : Nat) : CodePoint :=
  if 0xD800 ≤ unit && unit ≤ 0xDFFF then .surrogate unit else .scalar (Char.ofNat unit)

def isHighSurrogate (unit : Nat) : Bool := 0xD800 ≤ unit && unit ≤ 0xDBFF

def isLowSurrogate (unit : Nat) : Bool := 0xDC00 ≤ unit && unit ≤ 0xDFFF

/-- Joins an escaped high surrogate with the escaped low one right behind it, behind the code
points already `seen` in reverse. -/
def joinOnto (seen : List CodePoint) : List StringUnit → List CodePoint
  | [] => seen.reverse
  | .escaped high :: .escaped low :: rest =>
    if isHighSurrogate high && isLowSurrogate low then
      joinOnto (.scalar (Char.ofNat (0x10000 + (high - 0xD800) * 0x400 + (low - 0xDC00))) :: seen)
        rest
    else joinOnto (loneUnit high :: seen) (.escaped low :: rest)
  | .escaped unit :: rest => joinOnto (loneUnit unit :: seen) rest
  | .plain c :: rest => joinOnto (.scalar c :: seen) rest

/-- Reads a string whose opening quote has been passed. -/
def readString (rest : List Char) : Read (List CodePoint) :=
  match readUnits ('"' :: rest) [] rest with
  | .ok (units, behind) => .ok (joinOnto [] units, behind)
  | .error error => .error error

/-! ### Numbers -/

/-- The number spelled by decimal digits. -/
def ofDigits (digits : List Char) : Nat :=
  digits.foldl (fun value digit => value * 10 + (digit.toNat - '0'.toNat)) 0

/-- The digits before a point: a zero alone, or digits that start with another one. -/
def readWhole? : List Char → Option (List Char × List Char)
  | [] => none
  | first :: rest =>
    if first == '0' then some (['0'], rest)
    else if first.isDigit then
      some (first :: rest.takeWhile Char.isDigit, rest.dropWhile Char.isDigit)
    else none

/-- The digits of a fraction, which needs one at least. -/
def readFraction : List Char → List Char × List Char
  | '.' :: rest =>
    if (rest.takeWhile Char.isDigit).isEmpty then ([], '.' :: rest)
    else (rest.takeWhile Char.isDigit, rest.dropWhile Char.isDigit)
  | text => ([], text)

/-- The sign and digits behind an exponent mark. -/
def readExponentDigits (text : List Char) : Option (Int × List Char) :=
  let (negative, digits) := match text with
    | '-' :: rest => (true, rest)
    | '+' :: rest => (false, rest)
    | _ => (false, text)
  if (digits.takeWhile Char.isDigit).isEmpty then none
  else
    let size : Int := ofDigits (digits.takeWhile Char.isDigit)
    some (if negative then -size else size, digits.dropWhile Char.isDigit)

/-- The exponent, if there is one. -/
def readExponent? : List Char → Option (Int × List Char)
  | c :: rest => if c == 'e' || c == 'E' then readExponentDigits rest else none
  | [] => none

/-- The sign before a number, and the number without it. -/
def readSign : List Char → Bool × List Char
  | '-' :: rest => (true, rest)
  | text => (false, text)

/-- How many digits a number has before its point. -/
def wholeWidth (text : List Char) : Nat :=
  ((readWhole? (readSign text).2).map (·.1.length)).getD 0

/-- Reads a number. -/
def readNumber? (text : List Char) : Option (Json × List Char) :=
  let (negative, unsigned) := readSign text
  (readWhole? unsigned).map fun (whole, behind) =>
    let (fraction, behind) := readFraction behind
    match readExponent? behind with
    | some (exponent, behind) =>
      (.float (.ofDecimal negative (ofDigits (whole ++ fraction)) (exponent - fraction.length)),
        behind)
    | none =>
      if fraction.isEmpty then
        let size : Int := ofDigits whole
        (.int (if negative then -size else size), behind)
      else
        (.float (.ofDecimal negative (ofDigits (whole ++ fraction)) (-fraction.length)), behind)

/-! ### Values -/

/-- The values that are written as a word. -/
def wordValues : List (List Char × Json) :=
  [("null".toList, .null), ("true".toList, .bool true), ("false".toList, .bool false),
   ("NaN".toList, .float .nan), ("Infinity".toList, .float (.infinity false)),
   ("-Infinity".toList, .float (.infinity true))]

/-- Reads a value that is no string, array or object. -/
def readPlain (text : List Char) : Read Json :=
  match wordValues.find? (·.1.isPrefixOf text) with
  | some (word, value) => .ok (value, text.drop word.length)
  | none =>
    match readNumber? text with
    | some (.int value, behind) =>
      let digits := wholeWidth text
      if Text.longestNumeral < digits then faultAt (.tooManyDigits digits) text
      else .ok (.int value, behind)
    | some read => .ok read
    | none => faultAt .expectingValue text

mutual

/-- Reads a value. Each call spends one unit of fuel; twice the length of the text is enough. -/
def readValue : (fuel : Nat) → List Char → Read Json
  | 0, text => faultAt .expectingValue text
  | fuel + 1, text =>
    match text with
    | '"' :: rest =>
      match readString rest with
      | .ok (string, behind) => .ok (.str string, behind)
      | .error error => .error error
    | '[' :: rest =>
      match skipSpace rest with
      | ']' :: behind => .ok (.arr [], behind)
      | inside =>
        match readItems fuel inside with
        | .ok (items, behind) => .ok (.arr items, behind)
        | .error error => .error error
    | '\x7b' :: rest =>
      match skipSpace rest with
      | '\x7d' :: behind => .ok (.obj [], behind)
      | inside =>
        match readMembers fuel inside with
        | .ok (members, behind) => .ok (.obj (Ordered.putAll [] members), behind)
        | .error error => .error error
    | _ => readPlain text

/-- Reads the items of an array up to its closing bracket. -/
def readItems : (fuel : Nat) → List Char → Read (List Json)
  | 0, text => faultAt .expectingValue text
  | fuel + 1, text =>
    match readValue fuel text with
    | .error error => .error error
    | .ok (item, behind) =>
      match skipSpace behind with
      | ']' :: rest => .ok ([item], rest)
      | ',' :: rest =>
        match readItems fuel (skipSpace rest) with
        | .ok (items, rest) => .ok (item :: items, rest)
        | .error error => .error error
      | rest => faultAt .expectingComma rest

/-- Reads the members of an object up to its closing brace. -/
def readMembers : (fuel : Nat) → List Char → Read (List (List CodePoint × Json))
  | 0, text => faultAt .expectingName text
  | fuel + 1, text =>
    match text with
    | '"' :: rest =>
      match readString rest with
      | .error error => .error error
      | .ok (key, behind) =>
        match skipSpace behind with
        | ':' :: rest =>
          match readValue fuel (skipSpace rest) with
          | .error error => .error error
          | .ok (value, behind) =>
            match skipSpace behind with
            | '\x7d' :: rest => .ok ([(key, value)], rest)
            | ',' :: rest =>
              match readMembers fuel (skipSpace rest) with
              | .ok (members, rest) => .ok ((key, value) :: members, rest)
              | .error error => .error error
            | rest => faultAt .expectingComma rest
        | rest => faultAt .expectingColon rest
    | _ => faultAt .expectingName text

end

/-- Reads a text that holds one value and nothing else. -/
def parse (text : List Char) : Except ReadError Json :=
  if text.head? == some (Char.ofNat 0xFEFF) then .error ⟨.byteOrderMark, text.length⟩
  else
    match readValue (2 * text.length + 1) (skipSpace text) with
    | .error error => .error error
    | .ok (value, behind) =>
      match skipSpace behind with
      | [] => .ok value
      | rest => faultAt .extraData rest

end Tangle.Json

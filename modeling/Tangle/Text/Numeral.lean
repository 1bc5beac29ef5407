/-
This file writes integers as decimal numerals and sets the limit on how long a
numeral may be, both to be read and to be written. The limit is kept where the
numbers come from outside: in values that are read from JSON, given on the
command line, written as JSON or shown in a message. Lines, offsets, scores, the
numbers of vertices and all other counts are written without it, in charts,
tables, pages and names of files alike: none of them exceeds the square of the
size of its input, so one that is too long would need an input of more bytes than
any memory has. Thresholds have been read, so they are within the limit.
-/

namespace Tangle.Text

/-- The most digits that a numeral may have to be read as an integer or written from one. -/
def longestNumeral : Nat := 4300

/-- How many digits an integer has, without its sign. -/
def digitCount (value : Int) : Nat :=
  (Nat.toDigits 10 value.natAbs).length

/-- The numeral of an integer. -/
def numeral (value : Int) : List Char :=
  if value < 0 then '-' :: Nat.toDigits 10 value.natAbs else Nat.toDigits 10 value.natAbs

/-- The numeral of an integer that does not have too many digits. -/
def numeral? (value : Int) : Option (List Char) :=
  if longestNumeral < digitCount value then none else some (numeral value)

/-- An integer has too many digits to be written. -/
inductive Overlong where
  | found
deriving DecidableEq

def Overlong.message (_ : Overlong) : String :=
  let limit := longestNumeral
  s!"Exceeds the limit ({limit} digits) for integer string conversion; " ++
    "use sys.set_int_max_str_digits() to increase the limit"

end Tangle.Text

/-
This file says which characters count as blank and trims, splits and collapses
text by them. The class is wider than the ASCII blanks: it holds the separators
`001C`–`001F`, the no-break and ideographic spaces and the two Unicode
separators, and it leaves out zero-width characters.
-/

namespace Tangle.Text

/-- A character that trimming and splitting treat as empty space. -/
def isBlank (c : Char) : Bool :=
  let code := c.toNat
  (0x09 ≤ code && code ≤ 0x0D) || (0x1C ≤ code && code ≤ 0x20) || code == 0x85 || code == 0xA0 ||
    code == 0x1680 || (0x2000 ≤ code && code ≤ 0x200A) || code == 0x2028 || code == 0x2029 ||
    code == 0x202F || code == 0x205F || code == 0x3000

/-! ### Trimming -/

/-- Drops the blanks at the end. -/
def trimRight (text : List Char) : List Char :=
  (text.reverse.dropWhile isBlank).reverse

/-- Drops the blanks at both ends. -/
def trim (text : List Char) : List Char :=
  trimRight (text.dropWhile isBlank)

/-! ### Words -/

/-- The words of a text behind the word already begun, which is held in reverse. -/
def wordsOnto (word : List Char) : List Char → List (List Char)
  | [] => if word.isEmpty then [] else [word.reverse]
  | c :: rest =>
    if isBlank c then
      if word.isEmpty then wordsOnto [] rest else word.reverse :: wordsOnto [] rest
    else wordsOnto (c :: word) rest

/-- The maximal runs of non-blank characters, in order. -/
def words (text : List Char) : List (List Char) :=
  wordsOnto [] text

/-- The words of a text with one space between neighbours: blank runs collapse, ends are trimmed. -/
def collapse (text : List Char) : List Char :=
  [' '].intercalate (words text)

end Tangle.Text

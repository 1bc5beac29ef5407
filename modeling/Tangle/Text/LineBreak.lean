/-
This file knows three notions of line break. Reading a source file turns `\r\n`
and a lone `\r` into `\n`. What is shown has `\n` for `\r\n` only. Splitting a
listing into lines breaks at every line boundary of Unicode and at the information
separators `001C`–`001E` too.
-/

namespace Tangle.Text

/-- Turns `\r\n` and lone `\r` into `\n`, behind the characters already `seen` in reverse. -/
def unifyOnto (seen : List Char) : List Char → List Char
  | [] => seen.reverse
  | '\r' :: '\n' :: rest => unifyOnto ('\n' :: seen) rest
  | c :: rest => unifyOnto ((if c = '\r' then '\n' else c) :: seen) rest

/-- The text with `\n` as its only line end. -/
def unifyBreaks (text : List Char) : List Char :=
  unifyOnto [] text

/-- Turns `\r\n` into `\n`, behind the characters already `seen` in reverse. -/
def unpairOnto (seen : List Char) : List Char → List Char
  | [] => seen.reverse
  | '\r' :: '\n' :: rest => unpairOnto ('\n' :: seen) rest
  | c :: rest => unpairOnto (c :: seen) rest

/-- The text with `\n` for every `\r\n`; a lone `\r` stays. -/
def unpairBreaks (text : List Char) : List Char :=
  unpairOnto [] text

/-- A character that ends a line of a listing. -/
def isLineBreak (c : Char) : Bool :=
  let code := c.toNat
  (0x0A ≤ code && code ≤ 0x0D) || (0x1C ≤ code && code ≤ 0x1E) || code == 0x85 ||
    code == 0x2028 || code == 0x2029

/-- The lines of a listing without their ends; `line` is the line begun, in reverse. A break at
the very end opens no further line. -/
def linesOnto (line : List Char) : List Char → List (List Char)
  | [] => if line.isEmpty then [] else [line.reverse]
  | '\r' :: '\n' :: rest => line.reverse :: linesOnto [] rest
  | c :: rest =>
    if isLineBreak c then line.reverse :: linesOnto [] rest else linesOnto (c :: line) rest

/-- The lines of a listing. -/
def lines (text : List Char) : List (List Char) :=
  linesOnto [] text

end Tangle.Text

/-
This file takes the control sequences of a terminal out of a text, such as those
that set colours. A sequence is an escape and a bracket, then any parameters, then
any intermediate characters, and one final character that ends it.
-/

namespace Tangle.Text

/-- The character that starts a sequence. -/
def escapeMark : Char := '\x1b'

def isParameter (c : Char) : Bool := '0' ≤ c && c ≤ '?'

def isIntermediate (c : Char) : Bool := ' ' ≤ c && c ≤ '/'

def isFinal (c : Char) : Bool := '@' ≤ c && c ≤ '~'

/-- How many characters the sequence has that a text starts with, if it starts with one. -/
def sequenceLength? : List Char → Option Nat
  | mark :: '[' :: rest =>
    let behind := (rest.dropWhile isParameter).dropWhile isIntermediate
    match behind with
    | final :: _ =>
      if mark == escapeMark && isFinal final then some (rest.length - behind.length + 3) else none
    | [] => none
  | _ => none

/-- The text without its sequences, behind the characters already `seen` in reverse. The next
`skipped` characters belong to a sequence. -/
def withoutSequencesOnto (seen : List Char) : (skipped : Nat) → List Char → List Char
  | _, [] => seen.reverse
  | skipped + 1, _ :: rest => withoutSequencesOnto seen skipped rest
  | 0, c :: rest =>
    match sequenceLength? (c :: rest) with
    | some length => withoutSequencesOnto seen (length - 1) rest
    | none => withoutSequencesOnto (c :: seen) 0 rest

/-- The text without its control sequences. -/
def withoutSequences (text : String) : String :=
  String.ofList (withoutSequencesOnto [] 0 text.toList)

end Tangle.Text

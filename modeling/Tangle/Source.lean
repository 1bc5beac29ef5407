/-
This file joins a syntax tree with the bytes it was parsed from. Offsets in the
tree count bytes; what is shown to the user counts characters.
-/

import Tangle.Failure
import Tangle.Language
import Tangle.Log
import Tangle.Text.LineBreak
import Tangle.Text.Utf8
import Tangle.Tree

namespace Tangle

/-- A place in a text, both counted from one, the column in characters. -/
structure Position where
  line : Nat
  column : Nat
deriving DecidableEq

/-- A parsed source file. -/
structure Source where
  path : String
  language : Language
  bytes : List UInt8
  tree : Tree

namespace Source

/-- The text that a node covers. -/
def text (source : Source) (node : Node) : List Char :=
  Text.Utf8.decodeLossy ((source.bytes.drop node.tag.start).take (node.tag.stop - node.tag.start))

/-- The byte that ends a line. -/
def newline : UInt8 := 0x0A

/-- The position behind the given bytes of a line, the last of them first. -/
def positionOn (line : Nat) (passed : List UInt8) : Position :=
  ⟨line, (Text.Utf8.decodeLossy passed.reverse).length + 1⟩

/-- The position so many bytes further on. Of the line so far the bytes in `passed` have been
passed, the last one first. -/
def positionFrom (line : Nat) (passed : List UInt8) : (offset : Nat) → List UInt8 → Position
  | _, [] => positionOn line passed
  | 0, _ :: _ => positionOn line passed
  | offset + 1, byte :: rest =>
    if byte = newline then positionFrom (line + 1) [] offset rest
    else positionFrom line (byte :: passed) offset rest

/-- The position of a byte offset. -/
def positionAt (bytes : List UInt8) (offset : Nat) : Position :=
  positionFrom 1 [] offset bytes

/-- Going on over some bytes counts the line ends among them, and starts a column anew behind the
last one. -/
theorem positionFrom_eq (line : Nat) (passed : List UInt8) (offset : Nat) (bytes : List UInt8)
    (absent : newline ∉ passed) :
    positionFrom line passed offset bytes =
      ⟨line + (bytes.take offset).count newline,
        (Text.Utf8.decodeLossy
          (Text.afterLast newline (passed.reverse ++ bytes.take offset))).length + 1⟩ := by
  have kept := Text.afterLast_eq_self (mt List.mem_reverse.1 absent)
  induction bytes generalizing line passed offset with
  | nil =>
    rw [positionFrom, positionOn, List.take_nil, List.append_nil, kept, List.count_nil,
      Nat.add_zero line]
  | cons byte rest inductionHypothesis =>
    cases offset with
    | zero =>
      rw [positionFrom, positionOn, List.take_zero, List.append_nil, kept, List.count_nil,
        Nat.add_zero line]
    | succ offset =>
      rw [positionFrom, List.take_succ_cons, List.count_cons]
      split
      next same =>
        rw [inductionHypothesis (line + 1) [] offset List.not_mem_nil rfl, same,
          Text.afterLast_append_cons]
        simp [Nat.add_assoc, Nat.add_comm 1]
      next other =>
        have still : newline ∉ byte :: passed := by simp [absent, Ne.symm other]
        rw [inductionHypothesis line (byte :: passed) offset still
          (Text.afterLast_eq_self (mt List.mem_reverse.1 still))]
        simp [other]

/-- The line of an offset is told by the line ends before it, the column by the characters behind
the last of them. -/
theorem positionAt_eq (bytes : List UInt8) (offset : Nat) :
    positionAt bytes offset =
      ⟨(bytes.take offset).count newline + 1,
        (Text.Utf8.decodeLossy (Text.afterLast newline (bytes.take offset))).length + 1⟩ := by
  rw [positionAt, positionFrom_eq 1 [] offset bytes List.not_mem_nil, List.reverse_nil,
    List.nil_append, Nat.add_comm 1]

/-- The position of the first character of a node. -/
def position (source : Source) (node : Node) : Position :=
  positionAt source.bytes node.tag.start

/-- Takes a tree for the source at `path`, unless the file has no language that can be analysed. -/
def ofTree (path : String) (requested : Option String) (bytes : List UInt8) (tree : Tree) :
    Logged (Except Failure Source) :=
  match Language.resolve? requested path with
  | none => pure (.error (.unsupportedLanguage path))
  | some language => do
    if tree.hasError then
      Logged.log .debug .reading s!"Parse errors in {path}; analysing the recovered tree"
    pure (.ok ⟨path, language, bytes, tree⟩)

/-- What is read from a file with the given content: well-formed UTF-8 with `\n` as its only line
end. -/
def normalize (content : List UInt8) : List UInt8 :=
  Text.Utf8.encode (Text.unifyBreaks (Text.Utf8.decodeLossy content))

end Source

end Tangle

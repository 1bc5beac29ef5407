/-
This file shows that a position tells where in a source it is. Lines are counted in
bytes and columns in characters, so positions can only be trusted where bytes and
characters agree: in well-formed text, between two characters. There each character
moves the offset forward, and the position with it, either to the next line or one
column to the right. For that no line end may hide in a longer character.
-/

import Tangle.Source
import Tangle.Proofs.Paths
import Tangle.Proofs.TextBytes

namespace Tangle

/-! ### Line ends -/

namespace Text.Utf8

theorem encode_newline : encode ['\n'] = [Source.newline] := by decide

theorem newline_notMem_utf8EncodeChar {c : Char} (other : c ≠ '\n') :
    Source.newline ∉ String.utf8EncodeChar c :=
  fun member => other (eq_of_mem_utf8EncodeChar (by decide) member)

theorem count_encode (text : List Char) : (encode text).count Source.newline = text.count '\n' := by
  induction text using List.reverseRecOn with
  | nil => rfl
  | append_singleton text c inductionHypothesis =>
    rw [encode_append, List.count_append, List.count_append, inductionHypothesis]
    by_cases last : c = '\n'
    · rw [last, encode_newline]
      rfl
    · rw [encode_singleton, List.count_eq_zero.mpr (newline_notMem_utf8EncodeChar last),
        List.count_singleton, if_neg (by simpa using last)]

theorem afterLast_encode (text : List Char) :
    afterLast Source.newline (encode text) = encode (afterLast '\n' text) := by
  induction text using List.reverseRecOn with
  | nil => rfl
  | append_singleton text c inductionHypothesis =>
    rw [encode_append]
    by_cases last : c = '\n'
    · rw [last, encode_newline, afterLast_append_cons, afterLast_append_cons]
      rfl
    · have inside : Source.newline ∉ encode [c] := by
        rw [encode_singleton]
        exact newline_notMem_utf8EncodeChar last
      have outside : '\n' ∉ [c] := by simpa using Ne.symm last
      rw [(afterLast_append _ _).2 inside, (afterLast_append _ _).2 outside, encode_append,
        inductionHypothesis]

end Text.Utf8

/-! ### Positions between characters -/

namespace Position

/-- Positions are compared by their lines first. -/
def key (position : Position) : ℕ ×ₗ ℕ :=
  toLex (position.line, position.column)

theorem key_inj {first second : Position} : first.key = second.key ↔ first = second := by
  rw [key, key, toLex_inj, Prod.mk.injEq, mk.injEq]

/-- The position behind some characters. -/
def behind (passed : List Char) : Position :=
  ⟨passed.count '\n' + 1, (Text.afterLast '\n' passed).length + 1⟩

/-- Each character moves the position forward. -/
theorem key_behind_lt (passed : List Char) (c : Char) :
    (behind passed).key < (behind (passed ++ [c])).key := by
  rw [key, key, Prod.Lex.toLex_lt_toLex, behind, behind]
  by_cases last : c = '\n'
  · left
    simp [last]
  · right
    have outside : '\n' ∉ [c] := by simpa using Ne.symm last
    rw [(Text.afterLast_append _ _).2 outside]
    simp [last]

end Position

namespace Text.Utf8

/-- The offset lies between two characters of the text, or at one of its ends. -/
def Boundary (text : List Char) (offset : Nat) : Prop :=
  ∃ count ≤ text.length, (encode (text.take count)).length = offset

theorem strictMonoOn_length_encode (text : List Char) :
    StrictMonoOn (fun count => (encode (text.take count)).length) (Set.Iic text.length) := by
  refine strictMonoOn_Iic_of_lt_succ fun count inside => ?_
  rw [Nat.succ_eq_succ, ← List.take_concat_get' text count inside, encode_append, List.length_append,
    encode_singleton]
  exact Nat.lt_add_of_pos_right (List.length_pos_iff.mpr String.utf8EncodeChar_ne_nil)

end Text.Utf8

theorem Position.strictMonoOn_key_behind (text : List Char) :
    StrictMonoOn (fun count => (behind (text.take count)).key) (Set.Iic text.length) := by
  refine strictMonoOn_Iic_of_lt_succ fun count inside => ?_
  rw [Nat.succ_eq_succ, ← List.take_concat_get' text count inside]
  exact key_behind_lt _ _

open Text.Utf8

/-- The position of an offset between two characters is told by the characters before it. -/
theorem Source.positionAt_encode (text : List Char) (count : Nat) :
    positionAt (encode text) (encode (text.take count)).length =
      Position.behind (text.take count) := by
  have parted : encode text = encode (text.take count) ++ encode (text.drop count) := by
    rw [← encode_append, List.take_append_drop]
  have front : (encode text).take (encode (text.take count)).length = encode (text.take count) := by
    rw [parted, List.take_left]
  rw [positionAt_eq, front, count_encode, afterLast_encode, decodeLossy_encode, Position.behind]

/-- In a well-formed source, of two nodes that start between characters the one that starts
earlier is the one with the smaller position, and they start together if their positions are the
same. -/
theorem start_lt_iff_position_lt (source : Source) {text : List Char}
    (written : source.bytes = encode text) {first second : Node}
    (here : Boundary text first.tag.start) (there : Boundary text second.tag.start) :
    (first.tag.start < second.tag.start ↔
      (source.position first).key < (source.position second).key) ∧
    (source.position first = source.position second ↔ first.tag.start = second.tag.start) := by
  obtain ⟨count, inside, start⟩ := here
  obtain ⟨other, within, begin⟩ := there
  rw [Source.position, Source.position, written, ← start, ← begin, Source.positionAt_encode,
    Source.positionAt_encode, ← Position.key_inj]
  have offsets := strictMonoOn_length_encode text
  have positions := Position.strictMonoOn_key_behind text
  exact ⟨(offsets.lt_iff_lt inside within).trans (positions.lt_iff_lt inside within).symm,
    (positions.injOn.eq_iff inside within).trans (offsets.injOn.eq_iff inside within).symm⟩

/-- A line with one letter of two bytes, and a line with a symbol of four bytes and a letter. -/
def wideLetters : Source :=
  { path := "a.js"
    language := .javascript
    bytes := [0xC3, 0xA9, 0x0A, 0xF0, 0x9F, 0x98, 0x80, 0x78]
    tree := Tree.empty }

theorem start_lt_iff_position_lt_wideLetters :
    let node (start stop : Nat) : Node :=
      ⟨⟨0, .other "identifier", true, false, start, stop, none⟩, []⟩
    let text := ['é', '\n', '😀', 'x']
    wideLetters.bytes = encode text ∧ Boundary text 3 ∧ Boundary text 7 ∧
      (wideLetters.position (node 3 7)).key < (wideLetters.position (node 7 8)).key := by
  intro node text
  have written : wideLetters.bytes = encode text := by decide
  have symbol : Boundary text (node 3 7).tag.start := ⟨2, by decide, by decide⟩
  have letter : Boundary text (node 7 8).tag.start := ⟨3, by decide, by decide⟩
  have earlier : (node 3 7).tag.start < (node 7 8).tag.start := by decide
  obtain ⟨ordered, -⟩ := start_lt_iff_position_lt wideLetters written symbol letter
  exact ⟨written, symbol, letter, ordered.mp earlier⟩

end Tangle

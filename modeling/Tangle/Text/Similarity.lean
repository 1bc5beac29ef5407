/-
This file measures how alike two texts are: it takes the longest run of
characters that they share, then does the same before and behind it. Texts of
which enough is shared are close, which is how a misspelt word finds the one
that was meant.
-/

namespace Tangle.Text

/-- How many characters two texts share at their start. -/
def commonStart : List Char → List Char → Nat
  | a :: as, b :: bs => if a = b then commonStart as bs + 1 else 0
  | _, _ => 0

/-- A run of characters that stands in two texts. -/
structure SharedRun where
  first : Nat
  second : Nat
  length : Nat
deriving DecidableEq

/-- The longer of two runs, the earlier one if they are equally long. -/
def SharedRun.longer (earlier later : SharedRun) : SharedRun :=
  if earlier.length < later.length then later else earlier

/-- The longest shared run. Of several it starts earliest in the first text, then in the second. -/
def longestRun (first second : List Char) : SharedRun :=
  let starts := (List.range first.length).flatMap fun i =>
    (List.range second.length).map fun j =>
      (⟨i, j, commonStart (first.drop i) (second.drop j)⟩ : SharedRun)
  starts.foldl SharedRun.longer ⟨0, 0, 0⟩

/-- How many characters the shared runs have together. Every run takes at least one character of
the first text, so its length bounds the depth. -/
def sharedWithin : (depth : Nat) → List Char → List Char → Nat
  | 0, _, _ => 0
  | depth + 1, first, second =>
    let run := longestRun first second
    if run.length = 0 then 0
    else
      sharedWithin depth (first.take run.first) (second.take run.second) + run.length +
        sharedWithin depth (first.drop (run.first + run.length))
          (second.drop (run.second + run.length))

/-- How many characters of two texts are shared. -/
def shared (first second : List Char) : Nat :=
  sharedWithin first.length first second

/-- A text and how much of it is shared with another: twice the shared characters, of so many in
both. -/
structure Likeness where
  text : String
  matched : Nat
  total : Nat
deriving DecidableEq

/-- Whether two texts can be close at all: the shorter one may be shared as a whole, so it must not
be too short beside the other. -/
def mayBeClose (word candidate : String) : Bool :=
  3 * (candidate.length + word.length) ≤ 10 * min candidate.length word.length

/-- How alike a candidate and a word are. -/
def likeness (word candidate : String) : Likeness :=
  ⟨candidate, 2 * shared candidate.toList word.toList, candidate.length + word.length⟩

/-- Close means that at least three fifths are shared. -/
def Likeness.isClose (likeness : Likeness) : Bool :=
  3 * likeness.total ≤ 5 * likeness.matched

/-- Whether one is at least as alike as another; the later text wins a tie. -/
def Likeness.atLeast (a b : Likeness) : Bool :=
  let left := a.matched * b.total
  let right := b.matched * a.total
  right < left || (right == left && decide (b.text ≤ a.text))

/-- The most suggestions for one word. -/
def mostSuggestions : Nat := 3

/-- The candidates closest to a word, the closest first. -/
def closeTo (word : String) (candidates : List String) : List String :=
  let close := ((candidates.filter (mayBeClose word)).map (likeness word)).filter Likeness.isClose
  ((close.mergeSort Likeness.atLeast).take mostSuggestions).map (·.text)

end Tangle.Text

/-
This file matches names against wildcard patterns. A star stands for any text,
slashes and newlines included; a question mark for one character; brackets for
one character of a set. A bracket that is never closed stands for itself, and
there is no escape character.
-/

namespace Tangle.Glob

/-- A part of a pattern. A set is a list of closed ranges. -/
inductive Token where
  | star
  | any
  | literal (c : Char)
  | set (negated : Bool) (ranges : List (Char × Char))
deriving DecidableEq

/-! ### Matching -/

/-- Whether a part that stands for one character stands for this one. -/
def Token.matchesChar : Token → Char → Bool
  | star, _ => false
  | any, _ => true
  | literal expected, c => expected == c
  | set negated ranges, c => ranges.any (fun range => range.1 ≤ c && c ≤ range.2) != negated

/-- Whether some end of the text satisfies a condition. -/
def anySuffix (condition : List Char → Bool) : List Char → Bool
  | [] => condition []
  | c :: rest => condition (c :: rest) || anySuffix condition rest

/-- Whether the parts match the whole text. -/
def accepts : List Token → List Char → Bool
  | [], text => text.isEmpty
  | .star :: tokens, text => anySuffix (accepts tokens) text
  | _ :: _, [] => false
  | token :: tokens, c :: rest => token.matchesChar c && accepts tokens rest

/-! ### Matching all ends at once

Trying every end of the text anew for each star takes far too long when there are many stars. So
the parts are taken from the last one on, and for each of them it is noted which ends of the text
are matched from there, the whole text first and the empty end last. -/

/-- Which ends are matched by no parts at all: the empty one only. -/
def emptyEnds : List Char → List Bool
  | [] => [true]
  | _ :: rest => false :: emptyEnds rest

/-- Which ends are matched when a star comes first: those with a matched end in them. -/
def starEnds : List Bool → List Bool
  | [] => []
  | matched :: shorter =>
    let below := starEnds shorter
    (matched || below.headD false) :: below

/-- Which ends are matched when a part for one character comes first: those with such a character
before a matched end. -/
def characterEnds (token : Token) : List Char → List Bool → List Bool
  | c :: rest, _ :: shorter =>
    (token.matchesChar c && shorter.headD false) :: characterEnds token rest shorter
  | _, _ => [false]

/-- Which ends of a text the parts match. -/
def matchedEnds (text : List Char) : List Token → List Bool
  | [] => emptyEnds text
  | .star :: tokens => starEnds (matchedEnds text tokens)
  | token :: tokens => characterEnds token text (matchedEnds text tokens)

/-- The empty text has itself as its only end. -/
theorem matchedEnds_nil (tokens : List Token) : matchedEnds [] tokens = [accepts tokens []] := by
  induction tokens with
  | nil => rfl
  | cons token tokens inductionHypothesis =>
    cases token <;>
      simp [matchedEnds, inductionHypothesis, starEnds, characterEnds, accepts, anySuffix]

/-- The ends of a text are the text itself and the ends of what is behind its first character. -/
theorem matchedEnds_cons (c : Char) (rest : List Char) (tokens : List Token)
    (behind : ∀ tokens, (matchedEnds rest tokens).headD false = accepts tokens rest) :
    matchedEnds (c :: rest) tokens = accepts tokens (c :: rest) :: matchedEnds rest tokens := by
  induction tokens with
  | nil => rfl
  | cons token tokens inductionHypothesis =>
    cases token with
    | star =>
      have shorter := behind (.star :: tokens)
      rw [matchedEnds, accepts] at shorter
      rw [matchedEnds, inductionHypothesis, starEnds, shorter, accepts, anySuffix, matchedEnds]
    | _ =>
      rw [matchedEnds, inductionHypothesis, characterEnds, behind, accepts, matchedEnds] <;> simp

/-- Whether the parts fit the whole text, found without trying anything twice. -/
def fits (tokens : List Token) (text : List Char) : Bool :=
  (matchedEnds text tokens).headD false

/-- The parts fit a text if and only if they match it. -/
theorem fits_eq_accepts (tokens : List Token) (text : List Char) :
    fits tokens text = accepts tokens text := by
  induction text generalizing tokens with
  | nil => rw [fits, matchedEnds_nil, List.headD_cons]
  | cons c rest inductionHypothesis =>
    rw [fits, matchedEnds_cons c rest tokens inductionHypothesis, List.headD_cons]

/-! ### Sets -/

/-- The characters between the brackets of a set, and what is behind it. A closing bracket right
at the start, or right behind the mark of negation, belongs to the set. -/
def setContent? (text : List Char) : Option (List Char × List Char) :=
  let (mark, rest) := match text with
    | '!' :: rest => (['!'], rest)
    | rest => ([], rest)
  let (first, rest) := match rest with
    | ']' :: rest => ([']'], rest)
    | rest => ([], rest)
  match rest.dropWhile (· != ']') with
  | [] => none
  | _ :: behind => some (mark ++ first ++ rest.takeWhile (· != ']'), behind)

/-- Splits the content of a set at the hyphens that stand for ranges. A hyphen among the first
`skip` characters of a piece is an ordinary character, for a range needs both its ends. -/
def rangePieces : (fuel skip : Nat) → List Char → List (List Char)
  | 0, _, content => [content]
  | fuel + 1, skip, content =>
    match (content.drop skip).dropWhile (· != '-') with
    | [] => [content]
    | _ :: behind =>
      content.take (content.length - behind.length - 1) :: rangePieces fuel 2 behind

/-- A hyphen at the very end is an ordinary character. -/
def keepLastHyphen : List (List Char) → List (List Char)
  | [piece, []] => [piece ++ ['-']]
  | piece :: rest => piece :: keepLastHyphen rest
  | [] => []

/-- Takes out the ranges that run backwards, together with their ends. -/
def dropBackwards : List (List Char) → List (List Char)
  | [] => []
  | piece :: rest =>
    match dropBackwards rest with
    | [] => [piece]
    | next :: others =>
      match piece.getLast?, next.head? with
      | some low, some high =>
        if high < low then (piece.dropLast ++ next.tail) :: others else piece :: next :: others
      | _, _ => piece :: next :: others

/-- A character of a set, or the hyphen of a range (`none`). -/
abbrev SetMark := Option Char

/-- The pieces with the hyphens of the ranges between them. -/
def joinPieces : List (List Char) → List SetMark
  | [] => []
  | [piece] => piece.map some
  | piece :: rest => piece.map some ++ none :: joinPieces rest

/-- The ranges of a set. A hyphen that has lost its lower end is an ordinary character. -/
def rangesOf : List SetMark → List (Char × Char)
  | some low :: none :: some high :: rest => (low, high) :: rangesOf rest
  | some c :: rest => (c, c) :: rangesOf rest
  | none :: rest => ('-', '-') :: rangesOf rest
  | [] => []

/-- The set with the given content. The mark of negation is looked for last. -/
def setToken (content : List Char) : Token :=
  let skip := if content.head? == some '!' then 2 else 1
  let pieces := dropBackwards (keepLastHyphen (rangePieces content.length skip content))
  match joinPieces pieces with
  | some '!' :: marks => .set true (rangesOf marks)
  | marks => .set false (rangesOf marks)

/-! ### Patterns -/

/-- The parts of a pattern. Every step uses up a character at least. -/
def parseWith : (fuel : Nat) → List Char → List Token
  | 0, _ => []
  | _, [] => []
  | fuel + 1, c :: rest =>
    match c with
    | '*' => .star :: parseWith fuel rest
    | '?' => .any :: parseWith fuel rest
    | '[' =>
      match setContent? rest with
      | none => .literal '[' :: parseWith fuel rest
      | some (content, behind) => setToken content :: parseWith fuel behind
    | _ => .literal c :: parseWith fuel rest

/-- The parts of a pattern. -/
def parse (pattern : List Char) : List Token :=
  parseWith pattern.length pattern

end Tangle.Glob

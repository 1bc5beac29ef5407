/-
This file is about the parts of a written value: its strings, its whole numbers and the
layout around them. A string is read back whatever it holds, and a number unless it has
too many digits. What is written holds nothing but line ends and characters that can be
seen, and it starts with a character that tells the reader that there is a value.
-/

import Tangle.Proofs.JsonNumbers
import Mathlib.Tactic.IntervalCases

namespace Tangle

namespace Text

theorem hexValue?_digitChar : ∀ digit < 16, hexValue? (Nat.digitChar digit) = some digit := by
  decide

end Text

namespace Json

open Text (CodePoint)

/-! ### Strings -/

theorem hexUnit?_hexFixed {unit : Nat} (small : unit < 0x10000) :
    ∃ a b c d, Text.hexFixed 4 unit = [a, b, c, d] ∧ hexUnit? a b c d = some unit := by
  refine ⟨_, _, _, _, rfl, ?_⟩
  simp only [hexUnit?, Text.hexValue?_digitChar _ (Nat.mod_lt _ (by decide : 0 < 16))]
  show some _ = some _
  congr 1
  omega

/-- An escape is read as the number that it spells, unless the text ends there. -/
theorem readUnits_escapeUnit {unit : Nat} (small : unit < 0x10000) (opened : List Char)
    (seen : List StringUnit) {rest : List Char} (more : rest ≠ []) :
    readUnits opened seen (escapeUnit unit ++ rest) =
      readUnits opened (.escaped unit :: seen) rest := by
  obtain ⟨a, b, c, d, digits, spelled⟩ := hexUnit?_hexFixed small
  obtain ⟨next, behind, rfl⟩ := List.exists_cons_of_ne_nil more
  rw [escapeUnit, digits]
  show readUnits opened seen ('\\' :: 'u' :: a :: b :: c :: d :: next :: behind) = _
  rw [readUnits]
  exact spelled

/-- Units that are read for a character and come to that character again. -/
structure Spells (c : Char) (units : List StringUnit) : Prop where
  read : ∀ opened seen rest, rest ≠ [] →
    readUnits opened seen (renderPoint (.scalar c) ++ rest) =
      readUnits opened (units.reverse ++ seen) rest
  join : ∀ seen rest, joinOnto seen (units ++ rest) = joinOnto (.scalar c :: seen) rest

theorem joinOnto_escaped {unit : Nat} (low : isHighSurrogate unit = false) (seen : List CodePoint)
    (rest : List StringUnit) :
    joinOnto seen (.escaped unit :: rest) = joinOnto (loneUnit unit :: seen) rest := by
  cases rest with
  | nil => rfl
  | cons next rest =>
    cases next with
    | plain c => rfl
    | escaped other => rw [joinOnto, low, Bool.false_and, if_neg Bool.false_ne_true]

theorem spells_escapePoint (c : Char) : ∃ units,
    (∀ opened seen rest, rest ≠ [] →
      readUnits opened seen (escapePoint c.toNat ++ rest) =
        readUnits opened (units.reverse ++ seen) rest) ∧
    ∀ seen rest, joinOnto seen (units ++ rest) = joinOnto (.scalar c :: seen) rest := by
  have scalar : c.toNat < 0xD800 ∨ 0xDFFF < c.toNat ∧ c.toNat < 0x110000 := c.valid
  by_cases small : c.toNat < 0x10000
  · refine ⟨[.escaped c.toNat], fun opened seen rest more => ?_, fun seen rest => ?_⟩
    · rw [escapePoint, if_pos small, readUnits_escapeUnit small opened seen more]
      rfl
    · rw [List.singleton_append, joinOnto_escaped, loneUnit, if_neg, Char.ofNat_toNat]
      · simp
        omega
      · simp [isHighSurrogate]
        omega
  -- Beyond `FFFF` a character is written as a pair of surrogates, and the reader joins the pair.
  · have high : 0xD800 + (c.toNat - 0x10000) / 0x400 < 0x10000 := by omega
    have low : 0xDC00 + (c.toNat - 0x10000) % 0x400 < 0x10000 := by omega
    refine ⟨[.escaped (0xD800 + (c.toNat - 0x10000) / 0x400),
      .escaped (0xDC00 + (c.toNat - 0x10000) % 0x400)], fun opened seen rest more => ?_,
      fun seen rest => ?_⟩
    · rw [escapePoint, if_neg small, List.append_assoc,
        readUnits_escapeUnit high _ _ (by simp [escapeUnit]), readUnits_escapeUnit low _ _ more]
      rfl
    · have pair : (isHighSurrogate (0xD800 + (c.toNat - 0x10000) / 0x400) &&
          isLowSurrogate (0xDC00 + (c.toNat - 0x10000) % 0x400)) = true := by
        simp [isHighSurrogate, isLowSurrogate]
        omega
      have number : 0x10000 + (0xD800 + (c.toNat - 0x10000) / 0x400 - 0xD800) * 0x400 +
          (0xDC00 + (c.toNat - 0x10000) % 0x400 - 0xDC00) = c.toNat := by omega
      rw [List.cons_append, List.singleton_append, joinOnto, if_pos pair, number, Char.ofNat_toNat]

/-- A character that stands for itself on a page. -/
def IsShown (c : Char) : Prop := ' ' ≤ c ∧ c ≤ '~'

instance (c : Char) : Decidable (IsShown c) := inferInstanceAs (Decidable (_ ∧ _))

theorem simpleEscape?_letter {letter c : Char} (known : simpleEscape? letter = some c) :
    letter ≠ 'u' ∧ IsShown letter := by
  unfold simpleEscape? at known
  split at known <;> cases known <;> decide

/-- A character of a string is written in one of three ways. -/
theorem renderPoint_cases (c : Char) :
    (∃ letter, renderPoint (.scalar c) = ['\\', letter] ∧ simpleEscape? letter = some c) ∨
      (renderPoint (.scalar c) = [c] ∧ c ≠ '"' ∧ c ≠ '\\' ∧ IsShown c) ∨
      renderPoint (.scalar c) = escapePoint c.toNat := by
  rw [renderPoint.eq_def]
  dsimp only
  split
  next => exact .inl ⟨_, rfl, rfl⟩
  next => exact .inl ⟨_, rfl, rfl⟩
  next => exact .inl ⟨_, rfl, rfl⟩
  next => exact .inl ⟨_, rfl, rfl⟩
  next => exact .inl ⟨_, rfl, rfl⟩
  next => exact .inl ⟨_, rfl, rfl⟩
  next => exact .inl ⟨_, rfl, rfl⟩
  next quote backslash _ _ _ _ _ =>
    split
    next shown =>
      rw [Bool.and_eq_true, decide_eq_true_eq, decide_eq_true_eq] at shown
      exact .inr (.inl ⟨rfl, quote, backslash, shown⟩)
    next => exact .inr (.inr rfl)

theorem exists_spells (c : Char) : ∃ units, Spells c units := by
  obtain ⟨letter, shown, known⟩ | ⟨shown, quote, backslash, visible⟩ | shown := renderPoint_cases c
  · refine ⟨[.plain c], fun opened seen rest _ => ?_, fun seen rest => rfl⟩
    rw [shown]
    show readUnits opened seen ('\\' :: letter :: rest) = _
    rw [readUnits, known]
    · rfl
    · exact (simpleEscape?_letter known).1
  · refine ⟨[.plain c], fun opened seen rest _ => ?_, fun seen rest => rfl⟩
    have printed : ¬ c.toNat ≤ 0x1F := by
      have least : ' '.toNat ≤ c.toNat := visible.1
      exact Nat.not_le.mpr least
    rw [shown, List.singleton_append, readUnits, if_neg printed]
    · rfl
    · exact quote
    · exact backslash
  · obtain ⟨units, read, join⟩ := spells_escapePoint c
    exact ⟨units, fun opened seen rest more => shown ▸ read opened seen rest more, join⟩

theorem exists_spells_text (text : List Char) : ∃ units,
    (∀ opened seen behind,
      readUnits opened seen ((text.map CodePoint.scalar).flatMap renderPoint ++ '"' :: behind) =
        .ok (seen.reverse ++ units, behind)) ∧
    ∀ seen, joinOnto seen units = seen.reverse ++ text.map CodePoint.scalar := by
  induction text with
  | nil =>
    refine ⟨[], fun opened seen behind => ?_, fun seen => ?_⟩
    · rw [List.append_nil]
      rfl
    · rw [List.map_nil, List.append_nil]
      rfl
  | cons c rest inductionHypothesis =>
    obtain ⟨units, spells⟩ := exists_spells c
    obtain ⟨others, read, join⟩ := inductionHypothesis
    refine ⟨units ++ others, fun opened seen behind => ?_, fun seen => ?_⟩
    · rw [List.map_cons, List.flatMap_cons, List.append_assoc, spells.read _ _ _ (by simp), read]
      simp
    · rw [spells.join, join]
      simp

theorem renderString_append (text : List CodePoint) (behind : List Char) :
    renderString text ++ behind = '"' :: (text.flatMap renderPoint ++ '"' :: behind) := by
  simp [renderString]

/-- A string that was written is read back, with all that it holds. -/
theorem readString_render {text : List CodePoint} (scalar : CodePoint.IsText text)
    (behind : List Char) :
    readString (text.flatMap renderPoint ++ '"' :: behind) = .ok (text, behind) := by
  obtain ⟨text, rfl⟩ := scalar
  obtain ⟨units, read, join⟩ := exists_spells_text text
  rw [readString, read]
  simp [join]

/-! ### Whole numbers -/

/-- What may stand behind a value: nothing, a comma or the end of the line. -/
def Follows (behind : List Char) : Prop :=
  ∀ c ∈ behind.head?, c = ',' ∨ c = '\n'

theorem exists_toDigits_eq_cons (number : Nat) : ∃ first rest,
    Nat.toDigits 10 number = first :: rest ∧ ∀ c ∈ first :: rest, c.isDigit := by
  obtain ⟨first, rest, digits⟩ := List.exists_cons_of_ne_nil (@Nat.toDigits_ne_nil number 10)
  exact ⟨first, rest, digits, fun c member =>
    Nat.isDigit_of_mem_toDigits (by decide) (by decide) (digits ▸ member)⟩

theorem ne_of_isDigit {digit c : Char} (isDigit : digit.isDigit) (letter : c.isDigit = false) :
    digit ≠ c := by
  rintro rfl
  cases letter.symm.trans isDigit

theorem head?_toDigits_ne {number : Nat} (positive : 0 < number) :
    (Nat.toDigits 10 number).head? ≠ some '0' := by
  induction number using Nat.strongRecOn with
  | ind number inductionHypothesis =>
    by_cases small : number < 10
    · rw [Nat.toDigits_of_lt_base small, List.head?_singleton]
      interval_cases number <;> decide
    · have less : number / 10 < number := by omega
      rw [Nat.toDigits_of_base_le (by decide) (Nat.not_lt.mp small),
        List.head?_append_of_ne_nil _ Nat.toDigits_ne_nil]
      exact inductionHypothesis _ less (by omega)

theorem ofDigits_toDigits (number : Nat) : ofDigits (Nat.toDigits 10 number) = number := by
  have same := @Nat.ofDigitChars_ten_toDigits number
  rw [Nat.ofDigitChars_eq_foldl] at same
  simpa only [ofDigits, Nat.mul_comm] using same

theorem Follows.takeWhile_isDigit {behind : List Char} (follows : Follows behind) :
    behind.takeWhile Char.isDigit = [] ∧ behind.dropWhile Char.isDigit = behind := by
  cases behind with
  | nil => exact ⟨rfl, rfl⟩
  | cons c rest =>
    have other : c.isDigit = false := by
      obtain rfl | rfl := follows c rfl <;> decide
    rw [List.takeWhile_cons_of_neg (by simp [other]), List.dropWhile_cons_of_neg (by simp [other])]
    exact ⟨rfl, rfl⟩

theorem readWhole?_toDigits (number : Nat) {behind : List Char} (follows : Follows behind) :
    readWhole? (Nat.toDigits 10 number ++ behind) = some (Nat.toDigits 10 number, behind) := by
  obtain rfl | positive := Nat.eq_zero_or_pos number
  · rw [Nat.toDigits_zero]
    rfl
  · obtain ⟨first, rest, digits, all⟩ := exists_toDigits_eq_cons number
    have leads : first ≠ '0' := by
      have head := head?_toDigits_ne positive
      rw [digits] at head
      simpa using head
    have within : ∀ c ∈ rest, c.isDigit := fun c member => all c (List.mem_cons_of_mem _ member)
    rw [digits, List.cons_append, readWhole?, if_neg (by simpa using leads),
      if_pos (all first List.mem_cons_self), List.takeWhile_append_of_pos within,
      List.dropWhile_append_of_pos within, follows.takeWhile_isDigit.1, follows.takeWhile_isDigit.2,
      List.append_nil]

theorem readSign_numeral (value : Int) (behind : List Char) :
    readSign (Text.numeral value ++ behind) =
      (decide (value < 0), Nat.toDigits 10 value.natAbs ++ behind) := by
  rw [Text.numeral]
  split
  next negative => simp [readSign, negative]
  next natural =>
    obtain ⟨first, rest, digits, all⟩ := exists_toDigits_eq_cons value.natAbs
    rw [digits, List.cons_append, readSign]
    · simp [natural]
    · rintro _ ⟨⟩
      exact ne_of_isDigit (all _ List.mem_cons_self) rfl rfl

theorem Follows.readFraction_eq {behind : List Char} (follows : Follows behind) :
    readFraction behind = ([], behind) := by
  cases behind with
  | nil => rfl
  | cons c rest => obtain rfl | rfl := follows c rfl <;> rfl

theorem Follows.readExponent?_eq {behind : List Char} (follows : Follows behind) :
    readExponent? behind = none := by
  cases behind with
  | nil => rfl
  | cons c rest => obtain rfl | rfl := follows c rfl <;> rfl

theorem readNumber?_numeral (value : Int) {behind : List Char} (follows : Follows behind) :
    readNumber? (Text.numeral value ++ behind) = some (.int value, behind) := by
  have signed : (if decide (value < 0) then -(value.natAbs : Int) else value.natAbs) = value := by
    simp only [decide_eq_true_eq]
    split <;> omega
  rw [readNumber?, readSign_numeral]
  dsimp only
  rw [readWhole?_toDigits _ follows, Option.map_some]
  dsimp only
  rw [follows.readFraction_eq]
  dsimp only
  rw [follows.readExponent?_eq]
  dsimp only
  rw [if_pos List.isEmpty_nil, ofDigits_toDigits, signed]

theorem wholeWidth_numeral (value : Int) {behind : List Char} (follows : Follows behind) :
    wholeWidth (Text.numeral value ++ behind) = Text.digitCount value := by
  rw [wholeWidth, readSign_numeral, readWhole?_toDigits _ follows]
  rfl

/-- A number starts with a digit, or with a sign and a digit. -/
theorem exists_digit_numeral (value : Int) : ∃ digit rest, digit.isDigit = true ∧
    (Text.numeral value = digit :: rest ∨ Text.numeral value = '-' :: digit :: rest) := by
  obtain ⟨first, rest, digits, all⟩ := exists_toDigits_eq_cons value.natAbs
  refine ⟨first, rest, all first List.mem_cons_self, ?_⟩
  rw [Text.numeral, digits]
  split
  · exact .inr rfl
  · exact .inl rfl

theorem not_isPrefixOf_numeral (value : Int) (behind : List Char) :
    wordValues.find? (·.1.isPrefixOf (Text.numeral value ++ behind)) = none := by
  obtain ⟨digit, rest, isDigit, shown⟩ := exists_digit_numeral value
  have other (c : Char) (letter : c.isDigit = false) : c ≠ digit :=
    (ne_of_isDigit isDigit letter).symm
  rw [List.find?_eq_none]
  rcases shown with shown | shown
  all_goals
    rw [shown]
    simp [wordValues, other]

/-- A number that is not too long is read back. -/
theorem readPlain_numeral {value : Int} (few : Text.digitCount value ≤ Text.longestNumeral)
    {behind : List Char} (follows : Follows behind) :
    readPlain (Text.numeral value ++ behind) = .ok (.int value, behind) := by
  rw [readPlain, not_isPrefixOf_numeral]
  dsimp only
  rw [readNumber?_numeral value follows]
  dsimp only
  rw [wholeWidth_numeral value follows, if_neg (Nat.not_lt.mpr few)]

/-! ### Layout -/

/-- All characters are line ends or stand for themselves. -/
def Clean (text : List Char) : Prop := ∀ c ∈ text, c = '\n' ∨ IsShown c

instance (text : List Char) : Decidable (Clean text) := List.decidableBAll _ text

theorem Clean.append {text rest : List Char} (here : Clean text) (there : Clean rest) :
    Clean (text ++ rest) :=
  List.forall_mem_append.mpr ⟨here, there⟩

theorem Clean.cons {c : Char} {rest : List Char} (here : c = '\n' ∨ IsShown c)
    (there : Clean rest) : Clean (c :: rest) :=
  List.forall_mem_cons.mpr ⟨here, there⟩

theorem clean_nil : Clean [] :=
  List.forall_mem_nil _

theorem clean_newLine (depth : Nat) : Clean (newLine depth) := by
  refine .cons (.inl rfl) fun c member => ?_
  rw [List.eq_of_mem_replicate member]
  exact .inr (by decide)

theorem isShown_digitChar : ∀ digit < 16, IsShown (Nat.digitChar digit) := by decide

theorem clean_hexFixed (width number : Nat) : Clean (Text.hexFixed width number) := by
  induction width generalizing number with
  | zero => exact clean_nil
  | succ width inductionHypothesis =>
    have digit := isShown_digitChar _ (Nat.mod_lt number (by decide : 0 < 16))
    exact .append (inductionHypothesis _) (.cons (.inr digit) clean_nil)

theorem clean_escapeUnit (unit : Nat) : Clean (escapeUnit unit) :=
  .cons (by decide) (.cons (by decide) (clean_hexFixed 4 unit))

theorem clean_escapePoint (code : Nat) : Clean (escapePoint code) := by
  rw [escapePoint]
  split
  · exact clean_escapeUnit _
  · exact .append (clean_escapeUnit _) (clean_escapeUnit _)

theorem clean_renderPoint (c : Char) : Clean (renderPoint (.scalar c)) := by
  obtain ⟨letter, shown, known⟩ | ⟨shown, -, -, visible⟩ | shown := renderPoint_cases c
  · rw [shown]
    have visible := (simpleEscape?_letter known).2
    exact .cons (by decide) (.cons (.inr visible) clean_nil)
  · rw [shown]
    exact .cons (.inr visible) clean_nil
  · rw [shown]
    exact clean_escapePoint _

theorem clean_renderString {text : List CodePoint} (scalar : CodePoint.IsText text) :
    Clean (renderString text) := by
  obtain ⟨text, rfl⟩ := scalar
  have quote : Clean ['"'] := by decide
  refine .append (.append quote fun c member => ?_) quote
  obtain ⟨point, inside, shown⟩ := List.mem_flatMap.mp member
  obtain ⟨letter, -, rfl⟩ := List.mem_map.mp inside
  exact clean_renderPoint letter c shown

theorem isShown_of_isDigit {c : Char} (digit : c.isDigit) : IsShown c := by
  simp only [Char.isDigit, Bool.and_eq_true, decide_eq_true_eq] at digit
  exact ⟨Char.le_trans (by decide) digit.1, Char.le_trans digit.2 (by decide)⟩

theorem clean_numeral (value : Int) : Clean (Text.numeral value) := by
  have digits : Clean (Nat.toDigits 10 value.natAbs) := by
    intro c member
    exact .inr (isShown_of_isDigit (Nat.isDigit_of_mem_toDigits (by decide) (by decide) member))
  rw [Text.numeral]
  split
  · exact .cons (by decide) digits
  · exact digits

/-- How a value starts and what it holds, where it stands at the given depth. -/
structure Shown (depth : Nat) (json : Json) (first : Char) (rest : List Char) : Prop where
  before : ∀ behind, renderBefore depth behind json = first :: rest ++ behind
  dark : isSpace first = false
  opening : first ≠ ']'
  clean : Clean (first :: rest)

theorem exists_shown_int (depth : Nat) (value : Int) :
    ∃ first rest, Shown depth (.int value) first rest := by
  have clean := clean_numeral value
  obtain ⟨digit, rest, isDigit, shown | shown⟩ := exists_digit_numeral value
  · rw [shown] at clean
    have bracket : digit ≠ ']' := ne_of_isDigit isDigit rfl
    refine ⟨digit, rest, fun behind => by rw [renderBefore_int, shown], ?_, bracket, clean⟩
    simp [isSpace, ne_of_isDigit isDigit]
  · rw [shown] at clean
    exact ⟨'-', _, fun behind => by rw [renderBefore_int, shown], rfl, by decide, clean⟩

theorem exists_shown_items {items : List Json} (depth : Nat)
    (each : ∀ item ∈ items, ∃ first rest, Shown depth item first rest) :
    ∃ shown, (∀ behind, renderItems depth behind items = shown ++ behind) ∧ Clean shown := by
  induction items with
  | nil => exact ⟨[], fun behind => rfl, clean_nil⟩
  | cons item items inductionHypothesis =>
    obtain ⟨⟨first, rest, here⟩, behind⟩ := List.forall_mem_cons.mp each
    obtain ⟨others, there, clean⟩ := inductionHypothesis behind
    refine ⟨',' :: (newLine depth ++ (first :: rest ++ others)), fun behind => ?_, ?_⟩
    · rw [renderItems_cons, here.before, there]
      simp
    · exact .cons (by decide) (.append (clean_newLine depth) (.append here.clean clean))

theorem exists_shown_members {members : List (List CodePoint × Json)} (depth : Nat)
    (keys : ∀ member ∈ members, CodePoint.IsText member.1)
    (each : ∀ member ∈ members, ∃ first rest, Shown depth member.2 first rest) :
    ∃ shown, (∀ behind, renderMembers depth behind members = shown ++ behind) ∧ Clean shown := by
  induction members with
  | nil => exact ⟨[], fun behind => rfl, clean_nil⟩
  | cons member members inductionHypothesis =>
    obtain ⟨key, keys⟩ := List.forall_mem_cons.mp keys
    obtain ⟨⟨first, rest, here⟩, behind⟩ := List.forall_mem_cons.mp each
    obtain ⟨others, there, clean⟩ := inductionHypothesis keys behind
    have inner : Clean ([':', ' '] ++ (first :: rest ++ others)) :=
      .append (by decide) (.append here.clean clean)
    refine ⟨',' :: (newLine depth ++ (renderString member.1 ++ ([':', ' '] ++
      (first :: rest ++ others)))), fun behind => ?_, ?_⟩
    · rw [renderMembers_cons, here.before, there]
      simp
    · exact .cons (by decide) (.append (clean_newLine depth)
        (.append (clean_renderString key) inner))

/-- A value starts in such a way that the reader can tell it from a blank and from the end of an
array, and it is clean throughout. -/
theorem Plain.exists_shown {json : Json} (plain : json.Plain) (depth : Nat) :
    ∃ first rest, Shown depth json first rest := by
  induction plain generalizing depth with
  | null =>
    exact ⟨'n', ['u', 'l', 'l'], fun _ => rfl, by decide, by decide, by decide⟩
  | bool value =>
    cases value with
    | true =>
      exact ⟨'t', ['r', 'u', 'e'], fun _ => rfl, by decide, by decide, by decide⟩
    | false =>
      exact ⟨'f', ['a', 'l', 's', 'e'], fun _ => rfl, by decide, by decide, by decide⟩
  | int value => exact exists_shown_int depth value
  | str scalar =>
    exact ⟨'"', _, fun _ => rfl, by decide, by decide, clean_renderString scalar⟩
  | @arr items _ inductionHypothesis =>
    cases items with
    | nil =>
      exact ⟨'[', [']'], fun _ => rfl, by decide, by decide, by decide⟩
    | cons item items =>
      obtain ⟨⟨first, rest, here⟩, behind⟩ := List.forall_mem_cons.mp fun item member =>
        inductionHypothesis item member (depth + 1)
      obtain ⟨others, there, clean⟩ := exists_shown_items (depth + 1) behind
      have closing : Clean (newLine depth ++ [']']) := .append (clean_newLine depth) (by decide)
      refine ⟨'[', newLine (depth + 1) ++ (first :: rest ++ others) ++ (newLine depth ++ [']']),
        fun behind => ?_, by decide, by decide, ?_⟩
      · rw [renderBefore_arr_cons, there, here.before]
        simp
      · exact .cons (by decide)
          (.append (.append (clean_newLine _) (.append here.clean clean)) closing)
  | @obj members _ keys _ inductionHypothesis =>
    cases members with
    | nil =>
      exact ⟨'\x7b', ['\x7d'], fun _ => rfl, by decide, by decide, by decide⟩
    | cons member members =>
      obtain ⟨key, keys⟩ := List.forall_mem_cons.mp keys
      obtain ⟨⟨first, rest, here⟩, behind⟩ := List.forall_mem_cons.mp fun member inside =>
        inductionHypothesis member inside (depth + 1)
      obtain ⟨others, there, clean⟩ := exists_shown_members (depth + 1) keys behind
      have inner : Clean ([':', ' '] ++ (first :: rest ++ others)) :=
        .append (by decide) (.append here.clean clean)
      have closing : Clean (newLine depth ++ ['\x7d']) := .append (clean_newLine depth) (by decide)
      refine ⟨'\x7b', newLine (depth + 1) ++ (renderString member.1 ++ ([':', ' '] ++
        (first :: rest ++ others))) ++ (newLine depth ++ ['\x7d']), fun behind => ?_,
        by decide, by decide, ?_⟩
      · rw [renderBefore_obj_cons, there, here.before]
        simp
      · exact .cons (by decide)
          (.append (.append (clean_newLine _) (.append (clean_renderString key) inner)) closing)

end Json

end Tangle

/-
This file is about the length of the whole numbers in a value. A value can be written,
and shown in a message, exactly if none of its numbers has too many digits; what is
written then is what the writer without a limit writes. Whatever the reader gives has
only numbers of that kind, so it can always be written and shown.
-/

import Tangle.Json.Describe
import Tangle.Json.Reader
import Tangle.Proofs.Callers
import Tangle.Proofs.JsonOrder

namespace Tangle

theorem Ordered.mem_of_mem_putAll_nil {κ α : Type} [DecidableEq κ] {news : List (κ × α)}
    {entry : κ × α} (inside : entry ∈ putAll [] news) : entry ∈ news := by
  have empty : (([] : List (κ × α)).map (·.1)).Nodup := List.nodup_nil
  have unique := nodup_keys_putAll empty news
  have held := (get?_eq_some_iff unique).mpr inside
  rw [get?_putAll, get?, List.find?_nil, Option.map_none, Option.or_none,
    Option.map_eq_some_iff] at held
  obtain ⟨last, found, same⟩ := held
  obtain ⟨among, key⟩ := List.mem_filter.mp (List.mem_of_getLast? found)
  rwa [← Prod.ext (of_decide_eq_true key) same]

/-- The result is the given value under a condition, and else there is none. -/
def Provided {α : Type} (condition : Prop) (value : α) (result : Option α) : Prop :=
  condition ∧ result = some value ∨ ¬ condition ∧ result = none

namespace Provided

variable {α β : Type} {condition further : Prop} {value : α} {result : Option α}

theorem pure (holds : condition) (value : α) : Provided condition value (some value) :=
  .inl ⟨holds, rfl⟩

theorem bind {next : α → Option β} {change : α → β} (provided : Provided condition value result)
    (onward : ∀ value, Provided further (change value) (next value)) :
    Provided (condition ∧ further) (change value) (result >>= next) := by
  obtain ⟨holds, rfl⟩ | ⟨fails, rfl⟩ := provided
  · rw [Option.bind_eq_bind, Option.bind_some, and_iff_right holds]
    exact onward value
  · exact .inr ⟨mt And.left fails, rfl⟩

theorem map (change : α → β) (provided : Provided condition value result) :
    Provided condition (change value) (do Pure.pure (change (← result))) := by
  obtain ⟨holds, rfl⟩ | ⟨fails, rfl⟩ := provided
  · exact .inl ⟨holds, rfl⟩
  · exact .inr ⟨fails, rfl⟩

end Provided

/-- From the power of ten on that has one digit more, numbers have too many digits. -/
theorem Text.lt_digitCount {count : Nat} (positive : 0 < count) {value : Int}
    (large : 10 ^ count ≤ value.natAbs) : count < digitCount value := by
  rw [← Nat.not_le, digitCount, Nat.length_toDigits_le_iff (by decide) positive]
  exact Nat.not_lt.mpr large

namespace Json

open Text (CodePoint)

/-! ### Short values -/

/-- No number in the value has more digits than a numeral may have. -/
def Short (json : Json) : Prop :=
  ∀ number, json.Holds number → Text.digitCount number ≤ Text.longestNumeral

theorem short_int_iff {value : Int} :
    Short (.int value) ↔ Text.digitCount value ≤ Text.longestNumeral := by
  refine ⟨fun short => short value .here, ?_⟩
  rintro few _ ⟨⟩
  exact few

theorem short_arr_iff {items : List Json} : Short (.arr items) ↔ ∀ item ∈ items, Short item := by
  simp only [Short, holds_arr_iff]
  exact ⟨fun short item inside number holds => short number ⟨item, inside, holds⟩,
    fun each number ⟨item, inside, holds⟩ => each item inside number holds⟩

theorem short_obj_iff {members : List (List CodePoint × Json)} :
    Short (.obj members) ↔ ∀ member ∈ members, Short member.2 := by
  simp only [Short, holds_obj_iff]
  exact ⟨fun short member inside number holds => short number ⟨member, inside, holds⟩,
    fun each number ⟨member, inside, holds⟩ => each member inside number holds⟩

theorem Short.get? {json inner : Json} {key : String} (short : json.Short)
    (found : json.get? key = some inner) : inner.Short := by
  cases json with
  | obj members =>
    obtain ⟨member, first, rfl⟩ := Option.map_eq_some_iff.mp found
    exact short_obj_iff.mp short member (List.mem_of_find?_eq_some first)
  | _ => cases found

theorem not_short_iff {json : Json} :
    ¬ json.Short ↔ ∃ number, json.Holds number ∧ Text.longestNumeral < Text.digitCount number := by
  simp only [Short, not_forall, Nat.not_le, exists_prop]

/-- What holds of a value if it holds of all that it is made of holds of every value. -/
theorem induct {motive : Json → Prop} (null : motive .null)
    (bool : ∀ value, motive (.bool value)) (int : ∀ value, motive (.int value))
    (float : ∀ value, motive (.float value)) (str : ∀ text, motive (.str text))
    (arr : ∀ items, (∀ item ∈ items, motive item) → motive (.arr items))
    (obj : ∀ members, (∀ member ∈ members, motive member.2) → motive (.obj members))
    (json : Json) : motive json :=
  @Json.rec motive (fun items => ∀ item ∈ items, motive item)
    (fun members => ∀ member ∈ members, motive member.2) (fun member => motive member.2)
    null bool int float str arr obj (List.forall_mem_nil _)
    (fun _ _ first rest => List.forall_mem_cons.mpr ⟨first, rest⟩) (List.forall_mem_nil _)
    (fun _ _ first rest => List.forall_mem_cons.mpr ⟨first, rest⟩) (fun _ _ value => value) json

theorem provided_numeral? (value : Int) :
    Provided (Text.digitCount value ≤ Text.longestNumeral) (Text.numeral value)
      (Text.numeral? value) := by
  rw [Text.numeral?]
  split
  next many => exact .inr ⟨Nat.not_le.mpr many, rfl⟩
  next few => exact .inl ⟨Nat.not_lt.mp few, rfl⟩

/-! ### Writing -/

section

variable (depth : Nat) (behind : List Char)

/-- A value with numbers of any length, and the text behind it. -/
def renderBefore (json : Json) : List Char :=
  Id.run (writeBefore (m := Id) Text.numeral depth behind json)

/-- The items after the first, with numbers of any length, and the text behind them. -/
def renderItems (items : List Json) : List Char :=
  Id.run (writeItems (m := Id) Text.numeral depth behind items)

/-- The members after the first, with numbers of any length, and the text behind them. -/
def renderMembers (members : List (List CodePoint × Json)) : List Char :=
  Id.run (writeMembers (m := Id) Text.numeral depth behind members)

theorem render_eq (json : Json) : json.render = renderBefore 0 [] json :=
  rfl

@[simp]
theorem renderBefore_int (value : Int) :
    renderBefore depth behind (.int value) = Text.numeral value ++ behind :=
  rfl

@[simp]
theorem renderBefore_str (text : List CodePoint) :
    renderBefore depth behind (.str text) = renderString text ++ behind :=
  rfl

theorem renderBefore_arr_cons (item : Json) (items : List Json) :
    renderBefore depth behind (.arr (item :: items)) =
      '[' :: (newLine (depth + 1) ++ renderBefore (depth + 1)
        (renderItems (depth + 1) (newLine depth ++ ']' :: behind) items) item) :=
  rfl

theorem renderBefore_obj_cons (member : List CodePoint × Json)
    (members : List (List CodePoint × Json)) :
    renderBefore depth behind (.obj (member :: members)) =
      '\x7b' :: (newLine (depth + 1) ++ renderString member.1 ++ ':' :: ' ' ::
        renderBefore (depth + 1)
          (renderMembers (depth + 1) (newLine depth ++ '\x7d' :: behind) members) member.2) :=
  rfl

@[simp]
theorem renderItems_nil : renderItems depth behind [] = behind :=
  rfl

theorem renderItems_cons (item : Json) (items : List Json) :
    renderItems depth behind (item :: items) =
      ',' :: (newLine depth ++ renderBefore depth (renderItems depth behind items) item) :=
  rfl

@[simp]
theorem renderMembers_nil : renderMembers depth behind [] = behind :=
  rfl

theorem renderMembers_cons (member : List CodePoint × Json)
    (members : List (List CodePoint × Json)) :
    renderMembers depth behind (member :: members) =
      ',' :: (newLine depth ++ renderString member.1 ++ ':' :: ' ' ::
        renderBefore depth (renderMembers depth behind members) member.2) :=
  rfl

end

/-- Under the limit a value is written as it is without it if it is short, and else not at all. -/
def Limited (json : Json) : Prop :=
  ∀ depth behind, Provided json.Short (renderBefore depth behind json)
    (writeBefore Text.numeral? depth behind json)

theorem provided_writeItems {items : List Json} (each : ∀ item ∈ items, item.Limited)
    (depth : Nat) (behind : List Char) :
    Provided (∀ item ∈ items, item.Short) (renderItems depth behind items)
      (writeItems Text.numeral? depth behind items) := by
  induction items with
  | nil =>
    rw [writeItems]
    exact .pure (List.forall_mem_nil _) _
  | cons item items inductionHypothesis =>
    obtain ⟨here, others⟩ := List.forall_mem_cons.mp each
    rw [writeItems, renderItems_cons, List.forall_mem_cons, and_comm]
    exact (inductionHypothesis others).bind fun text => (here depth text).map _

theorem provided_writeMembers {members : List (List CodePoint × Json)}
    (each : ∀ member ∈ members, member.2.Limited) (depth : Nat) (behind : List Char) :
    Provided (∀ member ∈ members, member.2.Short) (renderMembers depth behind members)
      (writeMembers Text.numeral? depth behind members) := by
  induction members with
  | nil =>
    rw [writeMembers]
    exact .pure (List.forall_mem_nil _) _
  | cons member members inductionHypothesis =>
    obtain ⟨here, others⟩ := List.forall_mem_cons.mp each
    rw [writeMembers, renderMembers_cons, List.forall_mem_cons, and_comm]
    exact (inductionHypothesis others).bind fun text => (here depth text).map _

/-- The limit only decides whether a value is written. -/
theorem limited (json : Json) : json.Limited := by
  induction json using induct with
  | null | float | str => exact fun _ _ => .pure (by rintro _ ⟨⟩) _
  | bool value => cases value <;> exact fun _ _ => .pure (by rintro _ ⟨⟩) _
  | int value =>
    intro depth behind
    rw [writeBefore, renderBefore_int, short_int_iff]
    exact (provided_numeral? value).map (· ++ behind)
  | arr items inductionHypothesis =>
    intro depth behind
    rw [short_arr_iff]
    cases items with
    | nil => exact .pure (List.forall_mem_nil _) _
    | cons item items =>
      obtain ⟨here, others⟩ := List.forall_mem_cons.mp inductionHypothesis
      rw [writeBefore, renderBefore_arr_cons, List.forall_mem_cons, and_comm]
      exact (provided_writeItems others _ _).bind fun text => (here (depth + 1) text).map _
  | obj members inductionHypothesis =>
    intro depth behind
    rw [short_obj_iff]
    cases members with
    | nil => exact .pure (List.forall_mem_nil _) _
    | cons member members =>
      obtain ⟨here, others⟩ := List.forall_mem_cons.mp inductionHypothesis
      rw [writeBefore, renderBefore_obj_cons, List.forall_mem_cons, and_comm]
      exact (provided_writeMembers others _ _).bind fun text => (here (depth + 1) text).map _

/-! ### Showing -/

theorem exists_provided_describeItems? {items : List Json}
    (each : ∀ item ∈ items, ∃ shown, Provided item.Short shown item.describe?) :
    ∃ shown, Provided (∀ item ∈ items, item.Short) shown (describeItems? items) := by
  induction items with
  | nil => exact ⟨[], .pure (List.forall_mem_nil _) _⟩
  | cons item items inductionHypothesis =>
    obtain ⟨⟨first, here⟩, others⟩ := List.forall_mem_cons.mp each
    obtain ⟨rest, behind⟩ := inductionHypothesis others
    cases items with
    | nil =>
      rw [describeItems?, List.forall_mem_singleton]
      exact ⟨first, here⟩
    | cons next items =>
      rw [describeItems?, List.forall_mem_cons]
      · exact ⟨_, here.bind fun shown => behind.map (shown ++ ',' :: ' ' :: ·)⟩
      · simp

theorem exists_provided_describeMembers? {members : List (List CodePoint × Json)}
    (each : ∀ member ∈ members, ∃ shown, Provided member.2.Short shown member.2.describe?) :
    ∃ shown, Provided (∀ member ∈ members, member.2.Short) shown (describeMembers? members) := by
  induction members with
  | nil => exact ⟨[], .pure (List.forall_mem_nil _) _⟩
  | cons member members inductionHypothesis =>
    obtain ⟨key, value⟩ := member
    obtain ⟨⟨first, here⟩, others⟩ := List.forall_mem_cons.mp each
    obtain ⟨rest, behind⟩ := inductionHypothesis others
    cases members with
    | nil =>
      rw [describeMembers?, List.forall_mem_singleton]
      exact ⟨_, here.map _⟩
    | cons next members =>
      rw [describeMembers?, List.forall_mem_cons]
      · exact ⟨_, here.bind fun shown => behind.map
          (Text.quote key ++ ':' :: ' ' :: shown ++ ',' :: ' ' :: ·)⟩
      · simp

/-- A value can be shown exactly if it is short. -/
theorem exists_provided_describe? (json : Json) :
    ∃ shown, Provided json.Short shown json.describe? := by
  induction json using induct with
  | null | float | str => exact ⟨_, .pure (by rintro _ ⟨⟩) _⟩
  | bool value => cases value <;> exact ⟨_, .pure (by rintro _ ⟨⟩) _⟩
  | int value =>
    rw [short_int_iff, describe?]
    exact ⟨_, provided_numeral? value⟩
  | arr items inductionHypothesis =>
    obtain ⟨shown, provided⟩ := exists_provided_describeItems? inductionHypothesis
    rw [short_arr_iff, describe?]
    exact ⟨_, provided.map _⟩
  | obj members inductionHypothesis =>
    obtain ⟨shown, provided⟩ := exists_provided_describeMembers? inductionHypothesis
    rw [short_obj_iff, describe?]
    exact ⟨_, provided.map _⟩

/-! ### Reading -/

theorem ofDigits_lt {digits : List Char} (all : ∀ c ∈ digits, c.isDigit) :
    ofDigits digits < 10 ^ digits.length := by
  -- The number grows from what was read so far, so the bound starts there.
  have grows (value : Nat) :
      digits.foldl (fun value digit => value * 10 + (digit.toNat - '0'.toNat)) value <
        (value + 1) * 10 ^ digits.length := by
    induction digits generalizing value with
    | nil => simp
    | cons digit digits inductionHypothesis =>
      obtain ⟨here, others⟩ := List.forall_mem_cons.mp all
      have small : digit.toNat - '0'.toNat < 10 := by
        simp only [Char.isDigit, Bool.and_eq_true, decide_eq_true_eq] at here
        have most : digit.toNat ≤ '9'.toNat := here.2
        have nine : '9'.toNat = 57 := rfl
        have zero : '0'.toNat = 48 := rfl
        omega
      calc digits.foldl _ (value * 10 + (digit.toNat - '0'.toNat))
          < (value * 10 + (digit.toNat - '0'.toNat) + 1) * 10 ^ digits.length :=
            inductionHypothesis others _
        _ ≤ (value + 1) * 10 * 10 ^ digits.length := Nat.mul_le_mul_right _ (by omega)
        _ = (value + 1) * 10 ^ (digits.length + 1) := by rw [Nat.pow_succ, Nat.mul_assoc,
            Nat.mul_comm 10]
  simpa [ofDigits] using grows 0

theorem readWhole?_digits {text whole behind : List Char}
    (read : readWhole? text = some (whole, behind)) :
    0 < whole.length ∧ ∀ c ∈ whole, c.isDigit := by
  cases text with
  | nil => cases read
  | cons first rest =>
    rw [readWhole?] at read
    split at read
    · cases read
      exact ⟨Nat.one_pos, List.forall_mem_singleton.mpr rfl⟩
    · split at read
      next digit =>
        cases read
        exact ⟨Nat.succ_pos _, List.forall_mem_cons.mpr
          ⟨digit, fun c member => List.mem_takeWhile_imp member⟩⟩
      next => cases read

/-- What is read as a number is a whole number, with no more digits than stand before its point, or
one with a fraction or an exponent. -/
theorem readNumber?_cases {text behind : List Char} {value : Json}
    (read : readNumber? text = some (value, behind)) :
    (∃ number, value = .int number ∧ Text.digitCount number ≤ wholeWidth text) ∨
      ∃ number, value = .float number := by
  rw [readNumber?] at read
  rw [wholeWidth]
  generalize readSign text = sign at read ⊢
  obtain ⟨⟨whole, rest⟩, found, same⟩ := Option.map_eq_some_iff.mp read
  obtain ⟨positive, all⟩ := readWhole?_digits found
  rw [found]
  dsimp only at same
  split at same
  · cases same
    exact .inr ⟨_, rfl⟩
  · split at same
    · cases same
      refine .inl ⟨_, rfl, ?_⟩
      have size : (if sign.1 = true then -(ofDigits whole : Int) else ofDigits whole).natAbs =
          ofDigits whole := by
        split <;> simp
      rw [Text.digitCount, size]
      exact (Nat.length_toDigits_le_iff (by decide) positive).mpr (ofDigits_lt all)
    · cases same
      exact .inr ⟨_, rfl⟩

theorem short_of_readPlain {text behind : List Char} {value : Json}
    (read : readPlain text = .ok (value, behind)) : value.Short := by
  rw [readPlain] at read
  split at read
  next word found =>
    cases read
    have known := List.mem_of_find?_eq_some found
    simp only [wordValues, List.mem_cons, Prod.mk.injEq, List.not_mem_nil, or_false] at known
    rcases known with ⟨_, rfl⟩ | ⟨_, rfl⟩ | ⟨_, rfl⟩ | ⟨_, rfl⟩ | ⟨_, rfl⟩ | ⟨_, rfl⟩ <;>
      rintro _ ⟨⟩
  next =>
    split at read
    next number =>
      obtain ⟨_, same, few⟩ | ⟨_, same⟩ := readNumber?_cases number
      · cases same
        dsimp only at read
        split at read
        · cases read
        · rename_i within
          cases read
          exact short_int_iff.mpr (few.trans (Nat.not_lt.mp within))
      · cases same
    next whole number =>
      cases read
      obtain ⟨_, rfl, -⟩ | ⟨_, rfl⟩ := readNumber?_cases number
      · exact absurd rfl (whole _ _)
      · rintro _ ⟨⟩
    next => cases read

/-- Reading gives short values only: by induction on the fuel, for values, items and members at
once. -/
theorem short_of_read (fuel : Nat) :
    (∀ text value behind, readValue fuel text = .ok (value, behind) → value.Short) ∧
    (∀ text items behind, readItems fuel text = .ok (items, behind) →
      ∀ item ∈ items, item.Short) ∧
    ∀ text members behind, readMembers fuel text = .ok (members, behind) →
      ∀ member ∈ members, member.2.Short := by
  induction fuel with
  | zero =>
    refine ⟨fun text value behind read => ?_, fun text items behind read => ?_,
      fun text members behind read => ?_⟩
    · rw [readValue] at read
      cases read
    · rw [readItems] at read
      cases read
    · rw [readMembers] at read
      cases read
  | succ fuel inductionHypothesis =>
    obtain ⟨values, items, members⟩ := inductionHypothesis
    refine ⟨fun text value behind read => ?_, fun text found behind read => ?_,
      fun text found behind read => ?_⟩
    · rw [readValue.eq_def] at read
      dsimp only at read
      split at read
      next =>
        split at read
        · cases read
          rintro _ ⟨⟩
        · cases read
      next =>
        split at read
        · cases read
          exact short_arr_iff.mpr (List.forall_mem_nil _)
        · split at read
          next inside =>
            cases read
            exact short_arr_iff.mpr (items _ _ _ inside)
          next => cases read
      next =>
        split at read
        · cases read
          exact short_obj_iff.mpr (List.forall_mem_nil _)
        · split at read
          next inside =>
            cases read
            exact short_obj_iff.mpr fun member among =>
              members _ _ _ inside member (Ordered.mem_of_mem_putAll_nil among)
          next => cases read
      next => exact short_of_readPlain read
    · rw [readItems.eq_def] at read
      dsimp only at read
      split at read
      next => cases read
      next first =>
        have short := values _ _ _ first
        split at read
        · cases read
          exact List.forall_mem_singleton.mpr short
        · split at read
          next others =>
            cases read
            exact List.forall_mem_cons.mpr ⟨short, items _ _ _ others⟩
          next => cases read
        · cases read
    · rw [readMembers.eq_def] at read
      dsimp only at read
      split at read
      next =>
        split at read
        next => cases read
        next =>
          split at read
          next =>
            split at read
            next => cases read
            next first =>
              have short := values _ _ _ first
              split at read
              · cases read
                exact List.forall_mem_singleton.mpr short
              · split at read
                next others =>
                  cases read
                  exact List.forall_mem_cons.mpr ⟨short, members _ _ _ others⟩
                next => cases read
              · cases read
          next => cases read
      next => cases read

theorem short_of_parse {text : List Char} {value : Json} (parsed : parse text = .ok value) :
    value.Short := by
  rw [parse] at parsed
  split at parsed
  · cases parsed
  · split at parsed
    next => cases parsed
    next read =>
      split at parsed
      · cases parsed
        exact (short_of_read _).1 _ _ _ read
      · cases parsed

end Json

end Tangle

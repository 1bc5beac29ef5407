/-
This file relates texts to the bytes that they are stored as. A character is one byte,
or a lead byte with as many bytes behind it as that one asks for, and what each lead
byte asks for is said once, as a table. From it follow both directions: what was written
is read back, and what was read strictly is what writing it gives. So the strict reader
accepts exactly the well-formed inputs. Where an input is not well-formed, what is read
from it without a replacement still stands in it.
-/

import Tangle.Text.LineBreak
import Tangle.Text.Utf8
import Mathlib.Data.List.Basic
import Mathlib.Tactic.SplitIfs

namespace Tangle.Text

namespace Utf8

/-! ### What lead bytes ask for -/

/-- What a lead byte asks for: how many bytes follow it, and the range of the nearest one. -/
def Asks (lead following nearest : Nat) : Prop :=
  0x80 ≤ nearest ∧ nearest ≤ 0xBF ∧
    (following = 1 ∧ 0xC2 ≤ lead ∧ lead ≤ 0xDF ∨
      following = 2 ∧ 0xE0 ≤ lead ∧ lead ≤ 0xEF ∧
        (lead = 0xE0 → 0xA0 ≤ nearest) ∧ (lead = 0xED → nearest ≤ 0x9F) ∨
      following = 3 ∧ 0xF0 ≤ lead ∧ lead ≤ 0xF4 ∧
        (lead = 0xF0 → 0x90 ≤ nearest) ∧ (lead = 0xF4 → nearest ≤ 0x8F))

theorem exists_opening?_iff {lead nearest : UInt8} {following : Nat} :
    (∃ opening, opening? lead = some opening ∧ opening.following = following ∧
      opening.low ≤ nearest ∧ nearest ≤ opening.high) ↔
      Asks lead.toNat following nearest.toNat := by
  rw [opening?, Asks]
  split_ifs
  all_goals
    simp only [Option.some.injEq, exists_eq_left', false_and, exists_false, false_iff,
      Bool.and_eq_true, decide_eq_true_eq, UInt8.le_iff_toNat_le, ← UInt8.toNat_inj,
      UInt8.reduceToNat] at *
    omega

theorem following_ne_zero {lead : UInt8} {opening : Opening}
    (opens : opening? lead = some opening) : opening.following ≠ 0 := by
  rw [opening?] at opens
  split_ifs at opens
  all_goals
    cases opens
    decide

/-- The bytes of a longer character, as the reader asks for them. -/
structure Longer (lead nearest : UInt8) (others : List UInt8) : Prop where
  opens : ∃ opening, opening? lead = some opening ∧ opening.following = others.length + 1 ∧
    opening.low ≤ nearest ∧ nearest ≤ opening.high
  tails : ∀ byte ∈ others, 0x80 ≤ byte ∧ byte ≤ 0xBF

theorem Longer.asks {lead nearest : UInt8} {others : List UInt8}
    (longer : Longer lead nearest others) :
    Asks lead.toNat (others.length + 1) nearest.toNat :=
  exists_opening?_iff.mp longer.opens

/-- No byte of a longer character could be a character of its own. -/
theorem Longer.high {lead nearest : UInt8} {others : List UInt8}
    (longer : Longer lead nearest others) : ∀ byte ∈ lead :: nearest :: others, 0x80 ≤ byte := by
  obtain ⟨least, -, rows⟩ := longer.asks
  simp only [List.forall_mem_cons, UInt8.le_iff_toNat_le, UInt8.reduceToNat]
  exact ⟨by omega, least, fun byte member => (longer.tails byte member).1⟩

/-! ### Reading part by part -/

theorem readOnto_append (seen before : List (Option Char)) (bytes : List UInt8) :
    readOnto (seen ++ before) bytes = before.reverse ++ readOnto seen bytes := by
  fun_induction readOnto seen bytes with
  | case1 seen => rw [readOnto, List.reverse_append]
  | case2 seen lead rest one inductionHypothesis =>
    rw [readOnto, ← inductionHypothesis]
    rfl

theorem parts_nil : parts [] = [] := by
  rw [parts, readOnto, List.reverse_nil]

theorem parts_cons (lead : UInt8) (rest : List UInt8) :
    parts (lead :: rest) =
      (readOne lead rest).1 :: parts (rest.drop (readOne lead rest).2) := by
  rw [parts, readOnto]
  exact readOnto_append [] [_] _

/-- What holds of the empty input, and of an input if it holds of what comes behind its first part,
holds of all inputs. -/
theorem parts_induction {motive : List UInt8 → Prop} (nil : motive [])
    (cons : ∀ lead rest, motive (rest.drop (readOne lead rest).2) → motive (lead :: rest))
    (bytes : List UInt8) : motive bytes :=
  readOnto.induct (fun _ bytes => motive bytes) (fun _ => nil) (fun _ => cons) [] bytes

/-! ### Reading what was written -/

/-- A character is written as one byte, or as a lead byte with what it asks for. -/
theorem utf8EncodeChar_cases (c : Char) :
    (c.toNat < 0x80 ∧ String.utf8EncodeChar c = [UInt8.ofNat c.toNat]) ∨
      ∃ lead nearest others, String.utf8EncodeChar c = lead :: nearest :: others ∧
        Longer lead nearest others ∧ assemble lead (nearest :: others) = c.toNat := by
  have scalar : c.toNat < 0xD800 ∨ 0xDFFF < c.toNat ∧ c.toNat < 0x110000 := c.valid
  have tail (code : Nat) : 0x80 ≤ UInt8.ofNat (code % 64 + 128) ∧
      UInt8.ofNat (code % 64 + 128) ≤ 0xBF := by
    simp only [UInt8.le_iff_toNat_le, UInt8.toNat_ofNat', UInt8.reduceToNat]
    omega
  rw [String.utf8EncodeChar.eq_1, show c.val.toNat = c.toNat from rfl]
  generalize c.toNat = code at *
  split_ifs with one two three
  · exact .inl ⟨by omega, rfl⟩
  all_goals
    refine .inr ⟨_, _, _, rfl,
      ⟨exists_opening?_iff.mpr ⟨(tail _).1, (tail _).2, ?_⟩, ?_⟩, ?_⟩
    · simp only [UInt8.toNat_ofNat', List.length_cons, List.length_nil, true_and]
      omega
    · simp only [List.forall_mem_cons, tail, List.not_mem_nil, and_self, implies_true,
        false_imp_iff]
    · simp [assemble]
      omega

/-- Bytes within the bounds of later bytes continue a character to its end. -/
theorem continued_append {others : List UInt8} (tails : ∀ byte ∈ others, 0x80 ≤ byte ∧ byte ≤ 0xBF)
    (behind : List UInt8) :
    continued others.length 0x80 0xBF (others ++ behind) = others.length := by
  induction others with
  | nil => simp [continued]
  | cons byte others inductionHypothesis =>
    obtain ⟨near, far⟩ := List.forall_mem_cons.mp tails
    rw [List.length_cons, List.cons_append, continued, inductionHypothesis far]
    simp [near]

/-- A longer character is read as a whole. -/
theorem Longer.readOne_eq {lead nearest : UInt8} {others : List UInt8}
    (longer : Longer lead nearest others) (behind : List UInt8) :
    readOne lead (nearest :: others ++ behind) =
      (some (Char.ofNat (assemble lead (nearest :: others))), others.length + 1) := by
  obtain ⟨opening, opens, following, near⟩ := longer.opens
  have taken : continued (others.length + 1) opening.low opening.high
      (nearest :: others ++ behind) = others.length + 1 := by
    rw [List.cons_append, continued, continued_append longer.tails]
    simp [near]
  have whole : (nearest :: others ++ behind).take (others.length + 1) = nearest :: others :=
    List.take_left' (List.length_cons ..)
  have wide : ¬ lead < 0x80 := UInt8.not_lt.mpr (longer.high lead List.mem_cons_self)
  rw [readOne, if_neg wide, opens]
  dsimp only
  rw [following, taken, if_pos rfl, whole]

theorem parts_utf8EncodeChar_append (c : Char) (behind : List UInt8) :
    parts (String.utf8EncodeChar c ++ behind) = some c :: parts behind := by
  obtain ⟨small, bytes⟩ | ⟨lead, nearest, others, bytes, longer, number⟩ := utf8EncodeChar_cases c
  · have same : (UInt8.ofNat c.toNat).toNat = c.toNat := by
      rw [UInt8.toNat_ofNat']
      omega
    have short : UInt8.ofNat c.toNat < 0x80 := by
      rwa [UInt8.lt_iff_toNat_lt, same]
    rw [bytes, List.singleton_append, parts_cons, readOne, if_pos short, same, Char.ofNat_toNat,
      List.drop_zero]
  · have rest : (nearest :: others ++ behind).drop (others.length + 1) = behind :=
      List.drop_left' (List.length_cons ..)
    rw [bytes, List.cons_append, parts_cons, longer.readOne_eq, rest, number, Char.ofNat_toNat]

theorem encode_cons (c : Char) (text : List Char) :
    encode (c :: text) = String.utf8EncodeChar c ++ encode text :=
  List.flatMap_cons

theorem encode_append (text rest : List Char) : encode (text ++ rest) = encode text ++ encode rest :=
  List.flatMap_append

theorem encode_singleton (c : Char) : encode [c] = String.utf8EncodeChar c :=
  List.flatMap_singleton _ c

theorem parts_encode (text : List Char) : parts (encode text) = text.map some := by
  induction text with
  | nil => exact parts_nil
  | cons c rest inductionHypothesis =>
    rw [encode_cons, parts_utf8EncodeChar_append, inductionHypothesis, List.map_cons]

/-- What was written is read back, with nothing replaced. -/
theorem decodeLossy_encode (text : List Char) : decodeLossy (encode text) = text := by
  rw [decodeLossy, parts_encode, List.map_map]
  exact List.map_id text

/-- The strict reader accepts what was written. -/
theorem decode?_encode (text : List Char) : decode? (encode text) = some text := by
  rw [decode?, parts_encode, List.mapM_map]
  exact List.mapM_pure.trans (congrArg some (List.map_id text))

/-! ### Writing what was read -/

theorem exists_tails_of_continued {count : Nat} {rest : List UInt8}
    (complete : continued count 0x80 0xBF rest = count) :
    ∃ others behind, rest = others ++ behind ∧ others.length = count ∧
      ∀ byte ∈ others, 0x80 ≤ byte ∧ byte ≤ 0xBF := by
  induction count generalizing rest with
  | zero => exact ⟨[], rest, rfl, rfl, by simp⟩
  | succ count inductionHypothesis =>
    cases rest with
    | nil => cases complete
    | cons byte rest =>
      rw [continued] at complete
      split at complete
      next inside =>
        obtain ⟨others, behind, rfl, length, tails⟩ :=
          inductionHypothesis (Nat.succ.inj complete)
        refine ⟨byte :: others, behind, rfl, by rw [List.length_cons, length], ?_⟩
        exact List.forall_mem_cons.mpr ⟨by simpa using inside, tails⟩
      next => cases complete

/-- What is read from a byte that is no character of its own is a longer character. -/
theorem exists_longer_of_readOne {lead : UInt8} {rest : List UInt8} {c : Char}
    (wide : ¬lead < 0x80) (read : (readOne lead rest).1 = some c) :
    ∃ nearest others behind, rest = nearest :: others ++ behind ∧ Longer lead nearest others := by
  rw [readOne, if_neg wide] at read
  split at read
  · cases read
  next opening opens =>
    dsimp only at read
    split at read
    next complete =>
      obtain ⟨more, size⟩ := Nat.exists_eq_add_one_of_ne_zero (following_ne_zero opens)
      rw [size] at complete
      cases rest with
      | nil => cases complete
      | cons nearest rest =>
        rw [continued] at complete
        split at complete
        next inside =>
          obtain ⟨others, behind, rfl, length, tails⟩ :=
            exists_tails_of_continued (Nat.succ.inj complete)
          refine ⟨nearest, others, behind, rfl, ⟨opening, opens, ?_, by simpa using inside⟩, tails⟩
          rw [size, length]
        next => cases complete
    next => cases read

theorem toNat_val_ofNat {code : Nat} (scalar : code.isValidChar) :
    (Char.ofNat code).val.toNat = code := by
  rw [Char.ofNat, dif_pos scalar]
  rfl

/-- A longer character is written with the bytes that it was read from. -/
theorem Longer.utf8EncodeChar_assemble {lead nearest : UInt8} {others : List UInt8}
    (longer : Longer lead nearest others) :
    String.utf8EncodeChar (Char.ofNat (assemble lead (nearest :: others))) =
      lead :: nearest :: others := by
  obtain ⟨least, most, rows⟩ := longer.asks
  have tails : ∀ byte ∈ others, 0x80 ≤ byte.toNat ∧ byte.toNat ≤ 0xBF := longer.tails
  -- There are one, two or three bytes behind the lead byte, and the number tells which.
  rcases others with _ | ⟨second, _ | ⟨third, _ | ⟨fourth, rest⟩⟩⟩
  · have code : assemble lead [nearest] = lead.toNat % 32 * 64 + nearest.toNat % 64 := rfl
    simp only [List.length_nil] at rows
    rw [code, String.utf8EncodeChar.eq_1, toNat_val_ofNat (.inl (by omega)), if_neg (by omega),
      if_pos (by omega)]
    simp only [List.cons.injEq, ← UInt8.toNat_inj, UInt8.toNat_ofNat', and_true]
    omega
  · have code : assemble lead [nearest, second] =
        (lead.toNat % 16 * 64 + nearest.toNat % 64) * 64 + second.toNat % 64 := rfl
    simp only [List.length_cons, List.length_nil, List.forall_mem_cons] at rows tails
    rw [code, String.utf8EncodeChar.eq_1, toNat_val_ofNat (by unfold Nat.isValidChar; omega),
      if_neg (by omega), if_neg (by omega), if_pos (by omega)]
    simp only [List.cons.injEq, ← UInt8.toNat_inj, UInt8.toNat_ofNat', and_true]
    omega
  · have code : assemble lead [nearest, second, third] =
        ((lead.toNat % 8 * 64 + nearest.toNat % 64) * 64 + second.toNat % 64) * 64 +
          third.toNat % 64 := rfl
    simp only [List.length_cons, List.length_nil, List.forall_mem_cons] at rows tails
    rw [code, String.utf8EncodeChar.eq_1, toNat_val_ofNat (.inr (by omega)), if_neg (by omega),
      if_neg (by omega), if_neg (by omega)]
    simp only [List.cons.injEq, ← UInt8.toNat_inj, UInt8.toNat_ofNat', and_true]
    omega
  · simp only [List.length_cons] at rows
    omega

/-- A character is written with the bytes that it was read from. -/
theorem utf8EncodeChar_of_readOne {lead : UInt8} {rest : List UInt8} {c : Char}
    (read : (readOne lead rest).1 = some c) :
    String.utf8EncodeChar c = lead :: rest.take (readOne lead rest).2 := by
  by_cases short : lead < 0x80
  · rw [readOne, if_pos short] at read ⊢
    obtain rfl := Option.some.inj read
    have small : lead.toNat < 0x80 := short
    rw [String.utf8EncodeChar.eq_1, toNat_val_ofNat (.inl (by omega)), if_pos (by omega),
      UInt8.ofNat_toNat]
    rfl
  · obtain ⟨nearest, others, behind, rfl, longer⟩ := exists_longer_of_readOne short read
    rw [longer.readOne_eq] at read ⊢
    obtain rfl := Option.some.inj read
    rw [longer.utf8EncodeChar_assemble, List.take_left' (List.length_cons ..)]

theorem eq_encode_of_parts {bytes : List UInt8} {text : List Char}
    (read : parts bytes = text.map some) : bytes = encode text := by
  induction bytes using parts_induction generalizing text with
  | nil =>
    obtain rfl : text = [] := List.map_eq_nil_iff.mp (read.symm.trans parts_nil)
    rfl
  | cons lead rest inductionHypothesis =>
    rw [parts_cons] at read
    obtain ⟨c, behind, rfl, one, others⟩ := List.map_eq_cons_iff.mp read.symm
    rw [encode_cons, ← inductionHypothesis others.symm, utf8EncodeChar_of_readOne one.symm,
      List.cons_append, List.take_append_drop]

theorem eq_map_some_of_mapM {α : Type} {items : List (Option α)} {values : List α}
    (read : items.mapM id = some values) : items = values.map some := by
  induction items generalizing values with
  | nil =>
    obtain rfl := Option.some.inj read
    rfl
  | cons item rest inductionHypothesis =>
    rw [List.mapM_cons] at read
    obtain ⟨first, own, read⟩ := Option.bind_eq_some_iff.mp read
    obtain ⟨others, behind, read⟩ := Option.bind_eq_some_iff.mp read
    obtain rfl := Option.some.inj read
    rw [List.map_cons, ← inductionHypothesis behind]
    exact congrArg (· :: rest) own

/-- The strict reader accepts what a text is written as, and nothing else. -/
theorem decode?_eq_some_iff {bytes : List UInt8} {text : List Char} :
    decode? bytes = some text ↔ bytes = encode text := by
  constructor
  · intro read
    exact eq_encode_of_parts (eq_map_some_of_mapM read)
  · rintro rfl
    exact decode?_encode text

theorem isValidUTF8_iff {bytes : List UInt8} :
    bytes.toByteArray.IsValidUTF8 ↔ ∃ text, bytes = encode text := by
  constructor
  · rintro ⟨text, same⟩
    exact ⟨text, List.toByteArray_inj.mp same⟩
  · rintro ⟨text, rfl⟩
    exact ⟨text, rfl⟩

/-! ### Single characters -/

/-- No byte that is a character of its own hides in another character. -/
theorem eq_of_mem_utf8EncodeChar {c : Char} {byte : UInt8} (small : byte < 0x80)
    (member : byte ∈ String.utf8EncodeChar c) : c = Char.ofNat byte.toNat := by
  obtain ⟨short, bytes⟩ | ⟨lead, nearest, others, bytes, longer, -⟩ := utf8EncodeChar_cases c
  · rw [bytes, List.mem_singleton] at member
    rw [member, UInt8.toNat_ofNat', Nat.mod_eq_of_lt (by omega), Char.ofNat_toNat]
  · rw [bytes] at member
    exact absurd (longer.high byte member) (UInt8.not_le.mpr small)

/-- A character that is read without a replacement stands in the input. -/
theorem infix_of_mem_parts {bytes : List UInt8} {c : Char} (member : some c ∈ parts bytes) :
    String.utf8EncodeChar c <:+: bytes := by
  induction bytes using parts_induction with
  | nil =>
    rw [parts_nil] at member
    cases member
  | cons lead rest inductionHypothesis =>
    have parted : lead :: rest = (lead :: rest.take (readOne lead rest).2) ++
        rest.drop (readOne lead rest).2 := by
      rw [List.cons_append, List.take_append_drop]
    rw [parts_cons, List.mem_cons] at member
    rw [parted]
    obtain one | behind := member
    · rw [utf8EncodeChar_of_readOne one.symm]
      exact (List.prefix_append _ _).isInfix
    · exact (inductionHypothesis behind).trans (List.suffix_append _ _).isInfix

end Utf8

/-! ### Line ends -/

theorem return_notMem_unifyOnto {seen : List Char} (absent : '\r' ∉ seen) (text : List Char) :
    '\r' ∉ unifyOnto seen text := by
  fun_induction unifyOnto seen text with
  | case1 seen => rwa [List.mem_reverse]
  | case2 seen rest inductionHypothesis =>
    exact inductionHypothesis (List.not_mem_cons_of_ne_of_not_mem (by decide) absent)
  | case3 seen c rest _ inductionHypothesis =>
    refine inductionHypothesis (List.not_mem_cons_of_ne_of_not_mem ?_ absent)
    split
    · decide
    next other => exact Ne.symm other

theorem unifyOnto_of_notMem {text : List Char} (absent : '\r' ∉ text) (seen : List Char) :
    unifyOnto seen text = seen.reverse ++ text := by
  fun_induction unifyOnto seen text with
  | case1 seen => rw [List.append_nil]
  | case2 seen rest => exact absurd List.mem_cons_self absent
  | case3 seen c rest _ inductionHypothesis =>
    obtain ⟨other, others⟩ := List.ne_and_not_mem_of_not_mem_cons absent
    rw [inductionHypothesis others, if_neg other.symm, List.reverse_cons, List.append_assoc,
      List.singleton_append]

theorem return_notMem_unifyBreaks (text : List Char) : '\r' ∉ unifyBreaks text :=
  return_notMem_unifyOnto List.not_mem_nil text

/-- A text without `\r` is kept as it is. -/
theorem unifyBreaks_of_notMem {text : List Char} (absent : '\r' ∉ text) : unifyBreaks text = text :=
  unifyOnto_of_notMem absent []

end Tangle.Text

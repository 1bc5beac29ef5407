/-
This file takes paths apart. A path is written as names with slashes between them,
and it is read as the pieces between its slashes, so that names without a slash
come back as they were. Of a text that names a file the last name stays the last one,
whichever directory the text is taken to start from, so that the language of a file
does not depend on the way to it.
-/

import Tangle.Language
import Tangle.Proofs.Chart
import Tangle.Workspace

namespace Tangle

/-- What the name of a file or a directory can be. -/
def IsName (name : String) : Prop :=
  name ≠ "" ∧ '/' ∉ name.toList ∧ hasNull name = false

instance (name : String) : Decidable (IsName name) :=
  inferInstanceAs (Decidable (_ ∧ _))

theorem Text.pieces_eq_splitOn {α : Type} [BEq α] (separator : α) (text : List α) :
    pieces separator text = text.splitOn separator := by
  induction text with
  | nil => rfl
  | cons c rest inductionHypothesis =>
    show pieces separator (c :: rest) = List.splitOnP (· == separator) (c :: rest)
    rw [pieces, inductionHypothesis, List.splitOnP_cons_eq_if_modifyHead]
    by_cases same : (c == separator) = true
    · rw [if_pos same, if_pos same]
      rfl
    · rw [if_neg same, if_neg same]
      show _ = List.modifyHead (List.cons c) (rest.splitOn separator)
      cases split : rest.splitOn separator with
      | nil => exact absurd split (List.splitOn_ne_nil separator rest)
      | cons piece others => rfl

/-- A path that is made of names falls into these names again. -/
theorem pieces_intercalate {names : List String} (nonempty : names ≠ [])
    (plain : ∀ name ∈ names, IsName name) :
    Text.pieces '/' ("/".intercalate names).toList = names.map String.toList := by
  rw [Text.pieces_eq_splitOn, String.toList_intercalate]
  refine List.splitOn_intercalate '/' ?_ (by simpa using nonempty)
  intro letters member
  obtain ⟨name, among, rfl⟩ := List.mem_map.mp member
  exact (plain name among).2.1

theorem intercalate_ne_empty {names : List String} (nonempty : names ≠ [])
    (plain : ∀ name ∈ names, IsName name) : "/".intercalate names ≠ "" := by
  intro same
  have pieces : names.map String.toList = [[]] := by
    rw [← pieces_intercalate nonempty plain, same]
    rfl
  obtain ⟨name, rest, rfl, empty, -⟩ := List.map_eq_cons_iff.mp pieces
  exact (plain name List.mem_cons_self).1 (String.toList_eq_nil_iff.mp empty)

theorem hasNull_intercalate {names : List String} (plain : ∀ name ∈ names, IsName name) :
    hasNull ("/".intercalate names) = false := by
  rw [hasNull, String.toList_intercalate, Bool.eq_false_iff, ne_eq, List.contains_iff_mem]
  intro member
  rcases Text.mem_intercalate member with slash | ⟨letters, among, null⟩
  · exact absurd slash (by decide)
  · obtain ⟨name, inside, rfl⟩ := List.mem_map.mp among
    have clean := (plain name inside).2.2
    rw [hasNull, Bool.eq_false_iff, ne_eq, List.contains_iff_mem] at clean
    exact clean null

/-! ### Paths in one directory -/

theorem intercalate_concat {names : List String} (nonempty : names ≠ []) (last : String) :
    "/".intercalate (names ++ [last]) = "/".intercalate names ++ "/" ++ last := by
  rw [String.intercalate_append_of_ne_nil nonempty (List.cons_ne_nil last []),
    String.intercalate_singleton]

/-- The texts of the paths to what is in a directory differ in the last name only. -/
theorem Path.exists_text_concat (anchor : Anchor) {parts : List String} (deep : parts ≠ []) :
    ∃ front, ∀ last, (⟨anchor, parts ++ [last]⟩ : Path).text = front ++ "/" ++ last := by
  cases anchor with
  | here =>
    refine ⟨"/".intercalate parts, fun last => ?_⟩
    have more : (parts ++ [last]).isEmpty = false := by simp
    rw [text, more]
    exact intercalate_concat deep last
  | top =>
    refine ⟨"/" ++ "/".intercalate parts, fun last => ?_⟩
    show "/" ++ "/".intercalate (parts ++ [last]) = _
    rw [intercalate_concat deep]
    simp only [String.append_assoc]

/-! ### Last names -/

namespace Text

variable {α : Type} [BEq α] [LawfulBEq α] {separator : α}

theorem notMem_afterLast (text : List α) : separator ∉ afterLast separator text := by
  intro member
  have other := List.mem_takeWhile_imp (List.mem_reverse.mp member)
  exact absurd other (by simp)

theorem exists_eq_append_afterLast {text : List α} (inside : separator ∈ text) :
    ∃ before, text = before ++ separator :: afterLast separator text := by
  obtain ⟨behind, before, split, absent⟩ :=
    List.eq_append_cons_of_mem (List.mem_reverse.mpr inside)
  have whole : text = before.reverse ++ separator :: behind.reverse := by
    rw [← text.reverse_reverse, split]
    simp
  refine ⟨before.reverse, ?_⟩
  have last : afterLast separator text = behind.reverse := by
    rw [whole, afterLast_append_cons, afterLast_eq_self (by simpa using absent)]
  rw [last]
  exact whole

/-- What comes behind the last separator of a text goes on behind it. -/
theorem afterLast_append (before behind : List α) :
    (separator ∈ behind → afterLast separator (before ++ behind) = afterLast separator behind) ∧
      (separator ∉ behind →
        afterLast separator (before ++ behind) = afterLast separator before ++ behind) := by
  constructor
  · intro inside
    obtain ⟨front, split⟩ := exists_eq_append_afterLast inside
    rw [split, ← List.append_assoc, afterLast_append_cons, afterLast_append_cons]
  · intro absent
    have other : ∀ item ∈ behind.reverse, (item != separator) = true := by
      intro item member
      rw [bne_iff_ne]
      rintro rfl
      exact absent (List.mem_reverse.mp member)
    rw [afterLast, List.reverse_append, List.takeWhile_append_of_pos other, List.reverse_append,
      List.reverse_reverse, afterLast]

theorem getLast?_pieces (text : List α) :
    (pieces separator text).getLast? = some (afterLast separator text) := by
  have single {rest : List α} (absent : separator ∉ rest) :
      List.splitOnP (· == separator) rest = [rest] := by
    refine List.splitOnP_eq_singleton fun item member => ?_
    rw [beq_eq_false_iff_ne]
    rintro rfl
    exact absent member
  rw [pieces_eq_splitOn]
  show (List.splitOnP (· == separator) text).getLast? = _
  by_cases inside : separator ∈ text
  · obtain ⟨before, split⟩ := exists_eq_append_afterLast inside
    have parted : List.splitOnP (· == separator) text =
        List.splitOnP (· == separator) before ++ [afterLast separator text] := by
      conv_lhs => rw [split]
      rw [List.splitOnP_append_cons (p := (· == separator)) before _ (beq_self_eq_true separator),
        single (notMem_afterLast text)]
    rw [parted, List.getLast?_concat]
  · rw [single inside, afterLast_eq_self inside]
    rfl

end Text

/-- The last name of a text is the last part of the path that it spells. -/
theorem getLast?_pathParts {text : List Char} (named : Text.afterLast '/' text ≠ [])
    (proper : Text.afterLast '/' text ≠ ['.']) :
    (pathParts text).getLast? = some (String.ofList (Text.afterLast '/' text)) := by
  obtain ⟨others, split⟩ := List.getLast?_eq_some_iff.mp (Text.getLast?_pieces text)
  have kept : (String.ofList (Text.afterLast '/' text) != "" &&
      String.ofList (Text.afterLast '/' text) != ".") = true := by
    rw [Bool.and_eq_true, bne_iff_ne, bne_iff_ne]
    constructor
    · intro same
      exact named (by simpa using congrArg String.toList same)
    · intro same
      exact proper (by simpa using congrArg String.toList same)
  rw [pathParts, split, List.map_append, List.filter_append, List.map_singleton,
    List.filter_singleton, kept]
  exact List.getLast?_concat

namespace Path

theorem getLast?_join (base : Path) {path : Path} {last : String}
    (ends : path.parts.getLast? = some last) : (base.join path).parts.getLast? = some last := by
  unfold join
  split
  · rw [List.getLast?_append, ends]
    rfl
  · exact ends

/-- The text of a path ends in the last part of it. -/
theorem afterLast_text {path : Path} {last : String} (ends : path.parts.getLast? = some last)
    (plain : '/' ∉ last.toList) : Text.afterLast '/' path.text.toList = last.toList := by
  obtain ⟨anchor, parts⟩ := path
  obtain ⟨above, rfl⟩ := List.getLast?_eq_some_iff.mp ends
  have behind (front : String) :
      Text.afterLast '/' (front ++ "/" ++ last).toList = last.toList := by
    have letters : (front ++ "/" ++ last).toList = front.toList ++ '/' :: last.toList := by simp
    rw [letters, Text.afterLast_append_cons, Text.afterLast_eq_self plain]
  by_cases deep : above = []
  · subst deep
    cases anchor with
    | here =>
      show Text.afterLast '/' ("/".intercalate [last]).toList = _
      rw [String.intercalate_singleton, Text.afterLast_eq_self plain]
    | top =>
      show Text.afterLast '/' ("/" ++ "/".intercalate [last]).toList = _
      rw [String.intercalate_singleton]
      exact behind ""
  · obtain ⟨front, text⟩ := exists_text_concat anchor deep
    rw [text]
    exact behind front

/-- The language of a file is the same, whichever directory its name is taken to start from. -/
theorem detect?_text_join (base : Path) {text : String} (known : (Language.detect? text).isSome) :
    Language.detect? (base.join (.ofText text)).text = Language.detect? text := by
  have named : Text.afterLast '/' text.toList ≠ [] := by
    intro empty
    rw [Language.detect?, empty] at known
    exact absurd known (by decide)
  have proper : Text.afterLast '/' text.toList ≠ ['.'] := by
    intro dot
    rw [Language.detect?, dot] at known
    exact absurd known (by decide)
  have plain : '/' ∉ (String.ofList (Text.afterLast '/' text.toList)).toList := by
    rw [String.toList_ofList]
    exact Text.notMem_afterLast _
  have ends : (Path.ofText text).parts.getLast? = _ := getLast?_pathParts named proper
  have last := afterLast_text (getLast?_join base ends) plain
  rw [String.toList_ofList] at last
  rw [Language.detect?, last, Language.detect?]

end Path

end Tangle

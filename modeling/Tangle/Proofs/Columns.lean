/-
This file shows that a table tells its rows. A cell beyond the last column has no
width, so there is a table exactly if no row has more cells than there are headers.
The lines of a table are the headers, the dashes and the rows. The dashes give the
widths of the columns, whatever the cells hold; a line that has lost the blanks at its
end has lost nothing but spaces, as long as no cell ends in a blank, so its length
gives them back; and cut at the widths a line falls into its cells. A header may be
broken, which adds lines.
-/

import Tangle.TextTable
import Tangle.Proofs.Chart

namespace Tangle

/-! ### Lines of a text -/

theorem length_splitOn {α : Type} [DecidableEq α] (separator : α) (text : List α) :
    (text.splitOn separator).length = text.count separator + 1 := by
  induction text with
  | nil => rfl
  | cons item rest inductionHypothesis =>
    rw [List.splitOn_cons_eq_if_modifyHead, List.count_cons]
    split <;> simp [inductionHypothesis]

/-- Texts of the same lengths can be told where they are joined. -/
theorem intercalate_inj_of_lengths {α : Type} {separator : List α} {parts others : List (List α)}
    (sized : parts.map List.length = others.map List.length)
    (same : separator.intercalate parts = separator.intercalate others) : parts = others := by
  induction parts generalizing others with
  | nil =>
    cases others with
    | nil => rfl
    | cons other _ => simp at sized
  | cons part rest inductionHypothesis =>
    cases others with
    | nil => simp at sized
    | cons other behind =>
      obtain ⟨here, later⟩ := List.cons.inj sized
      cases rest with
      | nil =>
        obtain rfl : behind = [] := by simpa using later.symm
        simpa using same
      | cons next further =>
        cases behind with
        | nil => simp at later
        | cons follower more =>
          rw [List.intercalate_cons_cons, List.intercalate_cons_cons, List.append_assoc,
            List.append_assoc] at same
          obtain ⟨first, remaining⟩ := List.append_inj same here
          rw [first, inductionHypothesis later (List.append_cancel_left remaining)]

theorem map_inj_of_mem {α β : Type} {view : α → β} {items others : List α}
    (distinct : ∀ item ∈ items, ∀ other ∈ others, view item = view other → item = other)
    (same : items.map view = others.map view) : items = others := by
  have sizes : items.length = others.length := by
    simpa using congrArg List.length same
  refine List.ext_getElem sizes fun number inside within => ?_
  refine distinct _ (List.getElem_mem inside) _ (List.getElem_mem within) ?_
  have here := List.getElem_of_eq same (i := number) (by simpa using inside)
  simpa using here

/-- What adds up over texts adds up over joined texts. -/
theorem measure_intercalate {α : Type} {measure : List α → Nat} (empty : measure [] = 0)
    (add : ∀ first second, measure (first ++ second) = measure first + measure second)
    (separator : List α) (parts : List (List α)) :
    measure (separator.intercalate parts) =
      (parts.map measure).sum + (parts.length - 1) * measure separator := by
  induction parts with
  | nil => simp [empty]
  | cons part rest inductionHypothesis =>
    cases rest with
    | nil => simp
    | cons next others =>
      rw [List.intercalate_cons_cons, add, add, inductionHypothesis, List.map_cons (l := next :: _),
        List.sum_cons, List.length_cons, List.length_cons, Nat.add_sub_cancel, Nat.add_sub_cancel,
        List.length_cons, Nat.succ_mul]
      omega

namespace Text

/-- A text that does not end in a blank. -/
def Solid (text : List Char) : Prop :=
  ∀ c ∈ text.getLast?, isBlank c = false

instance : DecidablePred Solid := fun text =>
  decidable_of_iff (text.getLast?.all (!isBlank ·) = true) (by simp [Solid, Option.all_eq_true])

theorem isBlank_space : isBlank ' ' = true := rfl

theorem Solid.append {text : List Char} (solid : Solid text) (filled : text ≠ [])
    (before : List Char) : Solid (before ++ text) := by
  rw [Solid, List.getLast?_append_of_ne_nil _ filled]
  exact solid

/-- Trimming takes spaces off a text and nothing else, where the text does not end in a blank. -/
theorem trimRight_append_replicate {text : List Char} (solid : Solid text) (count : Nat) :
    trimRight (text ++ List.replicate count ' ') = text := by
  have blanks : ∀ c ∈ List.replicate count ' ', isBlank c = true :=
    List.forall_mem_replicate.mpr (.inr isBlank_space)
  rw [trimRight, List.reverse_append, List.reverse_replicate, List.dropWhile_append_of_pos blanks]
  cases reversed : text.reverse with
  | nil => exact (List.reverse_eq_nil_iff.mp reversed).symm
  | cons last rest =>
    have ends : last ∈ text.getLast? := by
      rw [← List.head?_reverse, reversed]
      rfl
    rw [List.dropWhile_cons_of_neg (by simp [solid last ends]), ← reversed, List.reverse_reverse]

end Text

namespace TextTable

/-! ### Widths -/

/-- The cells have room in their columns. -/
def Within (widths : List Nat) (cells : List (List Char)) : Prop :=
  List.Forall₂ (fun width cell => cell.length ≤ width) widths cells

/-- Columns only grow. -/
theorem Within.widen {widths : List Nat} {cells : List (List Char)} (within : Within widths cells)
    (row : List (List Char)) : Within (widen widths row) cells := by
  induction within generalizing row with
  | nil => exact .nil
  | cons room within inductionHypothesis =>
    cases row with
    | nil => exact .cons room within
    | cons cell rest => exact .cons (room.trans (le_max_left _ _)) (inductionHypothesis rest)

theorem Within.foldl_widen {widths : List Nat} {cells : List (List Char)}
    (within : Within widths cells) (rows : List (List (List Char))) :
    Within (rows.foldl TextTable.widen widths) cells := by
  induction rows generalizing widths with
  | nil => exact within
  | cons row rest inductionHypothesis => exact inductionHypothesis (within.widen row)

theorem within_widen {widths : List Nat} {row : List (List Char)}
    (full : row.length = widths.length) : Within (widen widths row) row := by
  induction widths generalizing row with
  | nil =>
    obtain rfl := List.length_eq_zero_iff.mp full
    exact .nil
  | cons width rest inductionHypothesis =>
    cases row with
    | nil => simp at full
    | cons cell cells => exact .cons (le_max_right _ _) (inductionHypothesis (Nat.succ.inj full))

/-- The headers have room in the columns. -/
theorem within_headers (headers : List (List Char)) (rows : List (List (List Char))) :
    Within (columnWidths headers rows) headers := by
  have own : Within (headers.map (·.length)) headers := by
    rw [Within, List.forall₂_map_left_iff, List.forall₂_same]
    exact fun _ _ => le_rfl
  exact own.foldl_widen rows

theorem length_columnWidths (headers : List (List Char)) (rows : List (List (List Char))) :
    (columnWidths headers rows).length = headers.length :=
  (within_headers headers rows).length_eq

/-- Every row that has a cell for each header has room in the columns. -/
theorem within_row {headers : List (List Char)} {rows : List (List (List Char))}
    {row : List (List Char)} (member : row ∈ rows) (full : row.length = headers.length) :
    Within (columnWidths headers rows) row := by
  obtain ⟨before, behind, rfl⟩ := List.append_of_mem member
  rw [columnWidths, List.foldl_append, List.foldl_cons]
  refine (within_widen ?_).foldl_widen behind
  rw [full]
  exact (length_columnWidths headers before).symm

/-! ### Lines -/

/-- The cells of a line, each filled up to its column; those without a column are left out. -/
def filledLine (widths : List Nat) (cells : List (List Char)) : List Char :=
  gap.intercalate (List.zipWith padTo widths cells)

theorem mapM_fill (widths : List Nat) (cells : List (List Char)) (number : Nat) :
    (cells.zipIdx number).mapM (fill widths) =
      if cells.length ≤ (widths.drop number).length then
        .ok (List.zipWith padTo (widths.drop number) cells)
      else .error .rowTooLong := by
  induction cells generalizing number with
  | nil =>
    rw [List.zipWith_nil_right, List.length_nil, if_pos (Nat.zero_le _)]
    rfl
  | cons cell rest inductionHypothesis =>
    rw [List.zipIdx_cons, List.mapM_cons, inductionHypothesis, fill]
    cases found : widths[number]? with
    | none =>
      have beyond : widths.drop number = [] :=
        List.drop_eq_nil_of_le (List.getElem?_eq_none_iff.mp found)
      rw [beyond, List.length_cons, List.length_nil, if_neg (Nat.not_succ_le_zero _)]
      rfl
    | some width =>
      obtain ⟨inside, rfl⟩ := List.getElem?_eq_some_iff.mp found
      rw [List.drop_eq_getElem_cons inside, List.zipWith_cons_cons, List.length_cons,
        List.length_cons]
      simp only [Nat.add_le_add_iff_right]
      split <;> rfl

/-- A line has room for as many cells as there are columns. -/
theorem line_eq (widths : List Nat) (cells : List (List Char)) :
    line widths cells =
      if cells.length ≤ widths.length then .ok (filledLine widths cells)
      else .error .rowTooLong := by
  rw [line, mapM_fill, List.drop_zero]
  split <;> rfl

theorem mapM_rowLine (widths : List Nat) (rows : List (List (List Char))) :
    rows.mapM (rowLine widths) =
      if ∀ row ∈ rows, row.length ≤ widths.length then
        .ok (rows.map fun row => Text.trimRight (filledLine widths row))
      else .error .rowTooLong := by
  induction rows with
  | nil => rfl
  | cons row rest inductionHypothesis =>
    rw [List.mapM_cons, inductionHypothesis, rowLine, line_eq]
    simp only [List.forall_mem_cons]
    by_cases room : row.length ≤ widths.length
    · rw [if_pos room]
      simp only [room, true_and]
      split <;> rfl
    · rw [if_neg room, if_neg (mt And.left room)]
      rfl

theorem length_padTo {width : Nat} {cell : List Char} (room : cell.length ≤ width) :
    (padTo width cell).length = width := by
  rw [padTo, List.length_append, List.length_replicate]
  omega

theorem map_length_zipWith_padTo {widths : List Nat} {cells : List (List Char)}
    (within : Within widths cells) :
    (List.zipWith padTo widths cells).map List.length = widths := by
  induction within with
  | nil => rfl
  | cons room _ inductionHypothesis =>
    rw [List.zipWith_cons_cons, List.map_cons, length_padTo room, inductionHypothesis]

theorem filledLine_cons_cons (width next : Nat) (widths : List Nat) (cell other : List Char)
    (cells : List (List Char)) :
    filledLine (width :: next :: widths) (cell :: other :: cells) =
      padTo width cell ++ (gap ++ filledLine (next :: widths) (other :: cells)) := by
  rw [filledLine, List.zipWith_cons_cons, List.zipWith_cons_cons, List.intercalate_cons_cons,
    List.append_assoc, ← List.zipWith_cons_cons, filledLine]

/-- A line ends in a character of a cell and any number of spaces. -/
theorem exists_solid_filledLine {widths : List Nat} {cells : List (List Char)}
    (within : Within widths cells) (solid : ∀ cell ∈ cells, Text.Solid cell) :
    ∃ body count, filledLine widths cells = body ++ List.replicate count ' ' ∧ Text.Solid body := by
  induction within with
  | nil => exact ⟨[], 0, rfl, fun _ member => absurd member (by simp)⟩
  | @cons width cell widths cells room within inductionHypothesis =>
    obtain ⟨first, later⟩ := List.forall_mem_cons.mp solid
    cases within with
    | nil => exact ⟨cell, width - cell.length, by simp [filledLine, padTo], first⟩
    | @cons next other widths cells =>
      obtain ⟨body, count, split, ends⟩ := inductionHypothesis later
      rw [filledLine_cons_cons, split]
      cases body with
      | nil =>
        refine ⟨cell, width - cell.length + (2 + count), ?_, first⟩
        rw [List.nil_append, padTo, List.append_assoc, List.replicate_add, List.replicate_add]
        rfl
      | cons c rest =>
        refine ⟨padTo width cell ++ (gap ++ c :: rest), count, ?_, ?_⟩
        · simp only [List.append_assoc]
        · exact (ends.append (by simp) gap).append (by simp) (padTo width cell)

theorem trimRight_padTo {cell : List Char} (solid : Text.Solid cell) (width : Nat) :
    Text.trimRight (padTo width cell) = cell :=
  Text.trimRight_append_replicate solid _

theorem map_trimRight_zipWith_padTo {widths : List Nat} {cells : List (List Char)}
    (within : Within widths cells) (solid : ∀ cell ∈ cells, Text.Solid cell) :
    (List.zipWith padTo widths cells).map Text.trimRight = cells := by
  induction within with
  | nil => rfl
  | cons _ _ inductionHypothesis =>
    obtain ⟨first, later⟩ := List.forall_mem_cons.mp solid
    rw [List.zipWith_cons_cons, List.map_cons, trimRight_padTo first, inductionHypothesis later]

/-- A line falls into its cells where it is cut at the widths. -/
theorem filledLine_inj {widths : List Nat} {cells others : List (List Char)}
    (within : Within widths cells) (room : Within widths others)
    (solid : ∀ cell ∈ cells, Text.Solid cell) (firm : ∀ cell ∈ others, Text.Solid cell)
    (same : filledLine widths cells = filledLine widths others) : cells = others := by
  have padded := intercalate_inj_of_lengths
    ((map_length_zipWith_padTo within).trans (map_length_zipWith_padTo room).symm) same
  rw [← map_trimRight_zipWith_padTo within solid, padded, map_trimRight_zipWith_padTo room firm]

/-- All lines have the same length before they are trimmed. -/
theorem length_filledLine {widths : List Nat} {cells : List (List Char)}
    (within : Within widths cells) :
    (filledLine widths cells).length = widths.sum + (widths.length - 1) * gap.length := by
  rw [filledLine, measure_intercalate List.length_nil fun _ _ => List.length_append,
    map_length_zipWith_padTo within, List.length_zipWith, within.length_eq, Nat.min_self]

/-- A line loses nothing but spaces when it is trimmed. -/
theorem exists_trimRight_filledLine {widths : List Nat} {cells : List (List Char)}
    (within : Within widths cells) (solid : ∀ cell ∈ cells, Text.Solid cell) :
    ∃ count, filledLine widths cells =
      Text.trimRight (filledLine widths cells) ++ List.replicate count ' ' := by
  obtain ⟨body, count, split, ends⟩ := exists_solid_filledLine within solid
  exact ⟨count, by rw [split, Text.trimRight_append_replicate ends]⟩

/-- The spaces that a line has lost are known by its length. -/
theorem trimRight_filledLine_inj {widths : List Nat} {cells others : List (List Char)}
    (within : Within widths cells) (room : Within widths others)
    (solid : ∀ cell ∈ cells, Text.Solid cell) (firm : ∀ cell ∈ others, Text.Solid cell)
    (same : Text.trimRight (filledLine widths cells) = Text.trimRight (filledLine widths others)) :
    cells = others := by
  obtain ⟨count, split⟩ := exists_trimRight_filledLine within solid
  obtain ⟨number, parted⟩ := exists_trimRight_filledLine room firm
  have lengths := (length_filledLine within).trans (length_filledLine room).symm
  rw [split, parted, same, List.length_append, List.length_append, List.length_replicate,
    List.length_replicate] at lengths
  refine filledLine_inj within room solid firm ?_
  rw [split, parted, same, Nat.add_left_cancel lengths]

/-- The dashes give the widths of the columns. -/
theorem dashes_inj {widths others : List Nat} (columns : widths.length = others.length)
    (same : dashes widths = dashes others) : widths = others := by
  have stripe (width : Nat) : ∀ c ∈ List.replicate width '-', (c == '-') = true :=
    List.forall_mem_replicate.mpr (.inr rfl)
  have space (rest : List Char) : ∀ c ∈ (gap ++ rest).head?, (c == '-') = false := by
    rintro _ ⟨⟩
    rfl
  have step (width next : Nat) (widths : List Nat) : dashes (width :: next :: widths) =
      List.replicate width '-' ++ (gap ++ dashes (next :: widths)) := by
    rw [dashes, List.map_cons, List.map_cons, List.intercalate_cons_cons, List.append_assoc,
      ← List.map_cons (f := (List.replicate · '-')), dashes]
  induction widths generalizing others with
  | nil => exact (List.length_eq_zero_iff.mp columns.symm).symm
  | cons width widths inductionHypothesis =>
    obtain ⟨other, others, rfl⟩ := List.exists_cons_of_length_eq_add_one columns.symm
    rw [List.length_cons, List.length_cons, Nat.succ_inj] at columns
    cases widths with
    | nil =>
      obtain rfl := List.length_eq_zero_iff.mp columns.symm
      have lengths := congrArg List.length same
      simpa [dashes] using lengths
    | cons next more =>
      obtain ⟨follower, further, rfl⟩ := List.exists_cons_of_length_eq_add_one columns.symm
      rw [step, step, append_inj_of_stop (stripe width) (stripe other) (space _) (space _)] at same
      have first := congrArg List.length same.1
      rw [List.length_replicate, List.length_replicate] at first
      rw [first, inductionHypothesis columns (List.append_cancel_left same.2)]

/-! ### Columns -/

/-- Where a column starts. -/
def columnStart (widths : List Nat) (number : Nat) : Nat :=
  ((widths.take number).map (· + gap.length)).sum

/-- What a line holds from the start of a column to the start of the next one. -/
def field (widths : List Nat) (number : Nat) (text : List Char) : List Char :=
  (text.take (columnStart widths (number + 1))).drop (columnStart widths number)

/-- Every cell starts where its column does, with nothing but spaces up to the next column. -/
def Aligned (widths : List Nat) (cells : List (List Char)) (text : List Char) : Prop :=
  ∀ number cell, cells[number]? = some cell →
    ∃ count, field widths number text = cell ++ List.replicate count ' '

theorem field_zero (width : Nat) (widths : List Nat) (text : List Char) :
    field (width :: widths) 0 text = text.take (width + gap.length) := by
  simp [field, columnStart]

theorem field_succ {width : Nat} {first : List Char} (sized : first.length = width + gap.length)
    (widths : List Nat) (number : Nat) (rest : List Char) :
    field (width :: widths) (number + 1) (first ++ rest) = field widths number rest := by
  have start (number : Nat) :
      columnStart (width :: widths) (number + 1) = first.length + columnStart widths number := by
    rw [sized, columnStart, List.take_succ_cons, List.map_cons, List.sum_cons, columnStart]
  rw [field, start, start, List.take_length_add_append, List.drop_length_add_append, field]

theorem aligned_intercalate (parts : List (List Char)) :
    Aligned (parts.map List.length) parts (gap.intercalate parts) := by
  induction parts with
  | nil =>
    rintro _ _ ⟨⟩
  | cons part rest inductionHypothesis =>
    intro number cell found
    cases rest with
    | nil =>
      obtain ⟨rfl, rfl⟩ : number = 0 ∧ part = cell := by
        cases number <;> simp_all
      refine ⟨0, ?_⟩
      rw [List.map_cons, field_zero, List.intercalate_singleton, List.take_of_length_le (by omega),
        List.replicate_zero, List.append_nil]
    | cons next others =>
      rw [List.intercalate_cons_cons, List.map_cons]
      cases number with
      | zero =>
        obtain rfl := Option.some.inj found
        refine ⟨gap.length, ?_⟩
        rw [field_zero, ← List.length_append, List.take_left]
        rfl
      | succ number =>
        rw [field_succ List.length_append]
        exact inductionHypothesis number cell found

theorem Aligned.of_padTo {widths : List Nat} {cells : List (List Char)} {text : List Char}
    (within : Within widths cells)
    (aligned : Aligned widths (List.zipWith padTo widths cells) text) :
    Aligned widths cells text := by
  intro number cell found
  obtain ⟨inside, rfl⟩ := List.getElem?_eq_some_iff.mp found
  have column : number < widths.length := within.length_eq ▸ inside
  obtain ⟨count, filled⟩ := aligned number (padTo widths[number] cells[number]) (by
    rw [List.getElem?_zipWith, List.getElem?_eq_getElem column, List.getElem?_eq_getElem inside])
  refine ⟨widths[number] - cells[number].length + count, ?_⟩
  rw [filled, padTo, List.append_assoc, List.replicate_add]

/-- The cells of a line are aligned. -/
theorem aligned_filledLine {widths : List Nat} {cells : List (List Char)}
    (within : Within widths cells) : Aligned widths cells (filledLine widths cells) := by
  have parts := aligned_intercalate (List.zipWith padTo widths cells)
  rw [map_length_zipWith_padTo within] at parts
  exact parts.of_padTo within

theorem aligned_dashes (widths : List Nat) :
    Aligned widths (widths.map (List.replicate · '-')) (dashes widths) := by
  have parts := aligned_intercalate (widths.map (List.replicate · '-'))
  rwa [List.map_map, List.map_congr_left (g := id) (by simp), List.map_id] at parts

/-- Cells stay aligned where a line loses spaces at its end. -/
theorem Aligned.of_append_replicate {widths : List Nat} {cells : List (List Char)}
    {text : List Char} {lost : Nat} (solid : ∀ cell ∈ cells, Text.Solid cell)
    (aligned : Aligned widths cells (text ++ List.replicate lost ' ')) :
    Aligned widths cells text := by
  intro number cell found
  obtain ⟨count, filled⟩ := aligned number cell found
  rw [field, List.take_append, List.drop_append, List.take_replicate, List.drop_replicate,
    List.append_eq_append_iff] at filled
  obtain ⟨missing, whole, spaces⟩ | ⟨spare, whole, spaces⟩ := filled
  · -- The cell does not end in a space, so it has lost nothing.
    obtain ⟨-, blank, -⟩ := List.append_eq_replicate_iff.mp spaces.symm
    obtain rfl : missing = [] := by
      by_contra filled
      have last : ' ' ∈ cell.getLast? := by
        rw [whole, List.getLast?_append_of_ne_nil _ filled, blank, List.getLast?_replicate]
        simpa using filled
      exact absurd (solid cell (List.mem_of_getElem? found) ' ' last) (by simp [Text.isBlank_space])
    exact ⟨0, by rw [field, whole, List.append_nil, List.replicate_zero, List.append_nil]⟩
  · obtain ⟨-, blank, -⟩ := List.append_eq_replicate_iff.mp spaces.symm
    exact ⟨spare.length, by rw [field, whole, ← blank]⟩

/-! ### Tables -/

/-- The line breaks in the cells of a line. -/
def breaks (cells : List (List Char)) : Nat :=
  (cells.map (List.count '\n')).sum

theorem breaks_eq_zero_iff {cells : List (List Char)} :
    breaks cells = 0 ↔ ∀ cell ∈ cells, '\n' ∉ cell := by
  rw [breaks, List.sum_eq_zero_iff, List.forall_mem_map]
  exact forall₂_congr fun _ _ => List.count_eq_zero

/-- The rows fill a table: each has a cell for every header, and no cell ends in a blank. -/
structure Fits (headers : List (List Char)) (rows : List (List (List Char))) : Prop where
  filled : rows ≠ []
  full : ∀ row ∈ rows, row.length = headers.length
  solid : ∀ row ∈ rows, ∀ cell ∈ row, Text.Solid cell

/-- The rows fill a table, and each of their cells stays on one line. -/
structure Flat (headers : List (List Char)) (rows : List (List (List Char))) : Prop
    extends Fits headers rows where
  unbroken : ∀ row ∈ rows, ∀ cell ∈ row, '\n' ∉ cell

/-- The table; cells without a header are left out. -/
def layOut (headers : List (List Char)) (rows : List (List (List Char))) : List Char :=
  let widths := columnWidths headers rows
  ['\n'].intercalate (filledLine widths headers :: dashes widths ::
    rows.map fun row => Text.trimRight (filledLine widths row))

theorem render_eq (headers : List (List Char)) {rows : List (List (List Char))}
    (filled : rows ≠ []) :
    render headers rows =
      if ∀ row ∈ rows, row.length ≤ headers.length then .ok (layOut headers rows)
      else .error .rowTooLong := by
  have columns := length_columnWidths headers rows
  rw [render, if_neg (by simpa using filled)]
  dsimp only
  rw [line_eq, if_pos columns.ge, mapM_rowLine, columns]
  split <;> rfl

/-- A row is as long as the headers or shorter, or there is no table. -/
theorem render_eq_error_iff (headers : List (List Char)) (rows : List (List (List Char))) :
    render headers rows = .error .rowTooLong ↔ ∃ row ∈ rows, headers.length < row.length := by
  by_cases filled : rows = []
  · subst filled
    exact iff_of_false (fun failed => nomatch failed) fun ⟨_, member, _⟩ => List.not_mem_nil member
  · rw [render_eq headers filled]
    split <;> simp_all

theorem Fits.render_eq_ok {headers : List (List Char)} {rows : List (List (List Char))}
    (fits : Fits headers rows) : render headers rows = .ok (layOut headers rows) := by
  rw [render_eq headers fits.filled, if_pos]
  exact fun row member => (fits.full row member).le

/-- The row of a function has a cell for each header, so there is always a table of functions. -/
theorem exists_functionTable (report : FileReport) :
    ∃ table, functionTable report = .ok table := by
  cases laid : functionTable report with
  | ok table => exact ⟨table, rfl⟩
  | error fault =>
    cases fault
    obtain ⟨row, member, long⟩ := (render_eq_error_iff _ _).mp laid
    obtain ⟨function, -, rfl⟩ := List.mem_map.mp member
    rw [List.length_map, List.length_map] at long
    exact absurd long (Nat.lt_irrefl 5)

theorem count_filledLine {widths : List Nat} {cells : List (List Char)}
    (within : Within widths cells) : (filledLine widths cells).count '\n' = breaks cells := by
  have padded : (List.zipWith padTo widths cells).map (List.count '\n') =
      cells.map (List.count '\n') := by
    induction within with
    | nil => rfl
    | cons _ _ inductionHypothesis =>
      rw [List.zipWith_cons_cons, List.map_cons, List.map_cons, inductionHypothesis, padTo,
        List.count_append, List.count_replicate]
      simp
  rw [filledLine, measure_intercalate List.count_nil fun _ _ => List.count_append, padded]
  simp [gap, breaks]

theorem count_trimRight_filledLine {widths : List Nat} {cells : List (List Char)}
    (within : Within widths cells) (solid : ∀ cell ∈ cells, Text.Solid cell) :
    (Text.trimRight (filledLine widths cells)).count '\n' = breaks cells := by
  obtain ⟨count, split⟩ := exists_trimRight_filledLine within solid
  have counted := count_filledLine within
  rw [split, List.count_append, List.count_replicate] at counted
  simpa using counted

theorem count_dashes (widths : List Nat) : (dashes widths).count '\n' = 0 := by
  rw [dashes, measure_intercalate List.count_nil fun _ _ => List.count_append, List.map_map,
    List.map_congr_left (g := fun _ => 0) (by simp [List.count_replicate])]
  simp [gap]

/-- A table has a line for each row and two more, and a further one for each break in a cell. -/
theorem Fits.length_splitOn_layOut {headers : List (List Char)} {rows : List (List (List Char))}
    (fits : Fits headers rows) :
    ((layOut headers rows).splitOn '\n').length =
      rows.length + 2 + breaks headers + (rows.map breaks).sum := by
  have trimmed : rows.map (fun row =>
      (Text.trimRight (filledLine (columnWidths headers rows) row)).count '\n') = rows.map breaks :=
    List.map_congr_left fun row member =>
      count_trimRight_filledLine (within_row member (fits.full row member)) (fits.solid row member)
  rw [length_splitOn, layOut, measure_intercalate List.count_nil fun _ _ => List.count_append]
  simp only [List.map_cons, List.map_map, Function.comp_def, List.sum_cons, trimmed,
    count_filledLine (within_headers headers rows), count_dashes, List.length_cons, List.length_map,
    List.count_singleton_self]
  omega

/-- The headers, the dashes and the rows are the lines of a table. -/
theorem Flat.splitOn_layOut {headers : List (List Char)} {rows : List (List (List Char))}
    (flat : Flat headers rows) :
    (layOut headers rows).splitOn '\n' =
      (filledLine (columnWidths headers rows) headers).splitOn '\n' ++
        dashes (columnWidths headers rows) ::
          rows.map fun row => Text.trimRight (filledLine (columnWidths headers rows) row) := by
  rw [layOut, List.intercalate_cons_cons, List.append_assoc, List.singleton_append,
    List.splitOn_append_cons_self, List.splitOn_intercalate _ _ (List.cons_ne_nil _ _)]
  refine List.forall_mem_cons.mpr ⟨List.count_eq_zero.mp (count_dashes _), fun text member => ?_⟩
  obtain ⟨row, inside, rfl⟩ := List.mem_map.mp member
  rw [← List.count_eq_zero,
    count_trimRight_filledLine (within_row inside (flat.full row inside)) (flat.solid row inside),
    breaks_eq_zero_iff]
  exact flat.unbroken row inside

/-- A table gives back its rows, whatever the headers hold. -/
theorem Flat.layOut_inj {headers : List (List Char)} {rows others : List (List (List Char))}
    (flat : Flat headers rows) (plain : Flat headers others)
    (same : layOut headers rows = layOut headers others) : rows = others := by
  have lines := congrArg (List.splitOn '\n') same
  rw [flat.splitOn_layOut, plain.splitOn_layOut] at lines
  -- The same headers are broken into as many lines, however wide the columns are.
  have tops : ((filledLine (columnWidths headers rows) headers).splitOn '\n').length =
      ((filledLine (columnWidths headers others) headers).splitOn '\n').length := by
    rw [length_splitOn, length_splitOn, count_filledLine (within_headers headers rows),
      count_filledLine (within_headers headers others)]
  obtain ⟨rules, bodies⟩ := List.cons.inj (List.append_inj lines tops).2
  have widths : columnWidths headers rows = columnWidths headers others :=
    dashes_inj (by rw [length_columnWidths, length_columnWidths]) rules
  rw [← widths] at bodies
  refine map_inj_of_mem (fun row member other inside => ?_) bodies
  refine trimRight_filledLine_inj (within_row member (flat.full row member)) ?_
    (flat.solid row member) (plain.solid other inside)
  rw [widths]
  exact within_row inside (plain.full other inside)

theorem Fits.forall₂_aligned {headers : List (List Char)} {rows : List (List (List Char))}
    (fits : Fits headers rows) :
    List.Forall₂ (Aligned (columnWidths headers rows)) rows
      (rows.map fun row => Text.trimRight (filledLine (columnWidths headers rows) row)) := by
  rw [List.forall₂_map_right_iff, List.forall₂_same]
  intro row member
  have within := within_row member (fits.full row member)
  obtain ⟨count, split⟩ := exists_trimRight_filledLine within (fits.solid row member)
  have aligned := aligned_filledLine within
  rw [split] at aligned
  exact aligned.of_append_replicate (fits.solid row member)

end TextTable

open TextTable in
/-- A table can be laid out unless a row is longer than the headers. Where the rows are flat, it
tells them; it has a line for each and two more, and one for each break in a header; and where
the headers are not broken, the cells of all lines start at the same columns. -/
theorem render_tells_rows (headers : List (List Char)) (rows others : List (List (List Char))) :
    (render headers rows = .error .rowTooLong ↔ ∃ row ∈ rows, headers.length < row.length) ∧
    (Flat headers rows → Flat headers others →
      render headers rows = render headers others → rows = others) ∧
    (Flat headers rows → ∃ table, render headers rows = .ok table ∧
      (table.splitOn '\n').length = rows.length + 2 + breaks headers ∧
      ((∀ header ∈ headers, '\n' ∉ header) → ∃ top rule lines,
        table.splitOn '\n' = top :: rule :: lines ∧
        let widths := columnWidths headers rows
        Aligned widths headers top ∧ Aligned widths (widths.map (List.replicate · '-')) rule ∧
          List.Forall₂ (Aligned widths) rows lines)) := by
  refine ⟨render_eq_error_iff headers rows, fun flat plain same => ?_, fun flat => ?_⟩
  · rw [flat.render_eq_ok, plain.render_eq_ok] at same
    exact flat.layOut_inj plain (Except.ok.inj same)
  · refine ⟨layOut headers rows, flat.render_eq_ok, ?_, fun unbroken => ?_⟩
    · rw [flat.length_splitOn_layOut, List.map_congr_left (g := fun _ => 0), List.map_const',
        List.sum_replicate, smul_zero, add_zero]
      exact fun row member => breaks_eq_zero_iff.mpr (flat.unbroken row member)
    · have whole : (filledLine (columnWidths headers rows) headers).splitOn '\n' =
          [filledLine (columnWidths headers rows) headers] := by
        refine List.splitOn_eq_singleton ?_
        rw [← List.count_eq_zero, count_filledLine (within_headers _ _), breaks_eq_zero_iff]
        exact unbroken
      rw [flat.splitOn_layOut, whole]
      exact ⟨_, _, _, rfl, aligned_filledLine (within_headers headers rows), aligned_dashes _,
        flat.forall₂_aligned⟩

namespace TextTable

/-- An empty header over cells that are empty, hold a gap or look like dashes. -/
def sparseHeaders : List (List Char) := [[], ['k']]

def sparseRows : List (List (List Char)) :=
  [[['a', ' ', ' ', 'b'], []], [['-', '-'], ['x']], [[], []]]

def denseRows : List (List (List Char)) :=
  [[['a'], ['b']], [['-', '-'], ['x']], [[], []]]

end TextTable

open TextTable in
theorem render_tells_rows_sparse :
    Flat sparseHeaders sparseRows ∧ Flat sparseHeaders denseRows ∧
    render sparseHeaders sparseRows ≠ render sparseHeaders denseRows ∧
    ∃ top rule lines, render sparseHeaders sparseRows =
        .ok (['\n'].intercalate (top :: rule :: lines)) ∧
      Aligned [4, 1] sparseHeaders top ∧
      Aligned [4, 1] [['-', '-', '-', '-'], ['-']] rule ∧
      List.Forall₂ (Aligned [4, 1]) sparseRows lines := by
  have flat : Flat sparseHeaders sparseRows := ⟨⟨by decide, by decide, by decide⟩, by decide⟩
  have plain : Flat sparseHeaders denseRows := ⟨⟨by decide, by decide, by decide⟩, by decide⟩
  obtain ⟨-, told, laid⟩ := render_tells_rows sparseHeaders sparseRows denseRows
  refine ⟨flat, plain, fun same => absurd (told flat plain same) (by decide), ?_⟩
  obtain ⟨table, success, -, aligned⟩ := laid flat
  obtain ⟨top, rule, lines, split, columns⟩ := aligned (by decide)
  refine ⟨top, rule, lines, ?_, columns⟩
  rw [success, ← split, List.intercalate_splitOn]

open TextTable in
/-- A header with a break in it takes a line of its own. -/
theorem render_broken_header :
    ¬ ∀ headers rows, Flat headers rows → ∃ table, render headers rows = .ok table ∧
      (table.splitOn '\n').length = rows.length + 2 := by
  intro all
  obtain ⟨table, success, lines⟩ :=
    all [['a', '\n', 'b']] [[['x']]] ⟨⟨by decide, by decide, by decide⟩, by decide⟩
  obtain rfl : ['a', '\n', 'b', '\n', '-', '-', '-', '\n', 'x'] = table :=
    Except.ok.inj (Eq.trans (by decide) success)
  exact absurd lines (by decide)

end Tangle

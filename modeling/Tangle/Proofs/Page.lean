/-
This file shows that the report page tells its functions. Names are text from
anywhere, with brackets, quotes and references in them, but once they are escaped
none of them holds an angle bracket. So a page falls back into its tags and the
texts behind them: the body of the table is a row of six cells for each function
and nothing else, and the cells give the functions back.
-/

import Tangle.Html
import Tangle.Proofs.Chart

namespace Tangle

/-- Blocks of one length can be told from each other where they stand in a row. -/
theorem flatMap_inj_of_length {α β : Type} {block : α → List β} {size : Nat}
    (sized : ∀ item, (block item).length = size + 1) {items others : List α} :
    items.flatMap block = others.flatMap block ↔ items.map block = others.map block := by
  constructor
  · intro same
    induction items generalizing others with
    | nil =>
      cases others with
      | nil => rfl
      | cons other _ =>
        have lengths := congrArg List.length same
        simp [sized] at lengths
        omega
    | cons item rest inductionHypothesis =>
      cases others with
      | nil =>
        have lengths := congrArg List.length same
        simp [sized] at lengths
      | cons other behind =>
        rw [List.flatMap_cons, List.flatMap_cons] at same
        obtain ⟨first, later⟩ := List.append_inj same ((sized item).trans (sized other).symm)
        rw [List.map_cons, List.map_cons, first, inductionHypothesis later]
  · intro same
    rw [List.flatMap_def, List.flatMap_def, same]

namespace Html

/-! ### Escaped text -/

/-- The characters that have a meaning in markup, with their references. -/
def references : List (Char × List Char) :=
  [('&', ['&', 'a', 'm', 'p', ';']), ('<', ['&', 'l', 't', ';']), ('>', ['&', 'g', 't', ';']),
   ('"', ['&', 'q', 'u', 'o', 't', ';']), ('\'', ['&', '#', 'x', '2', '7', ';'])]

theorem escapeChar_cases (c : Char) :
    (c, escapeChar c) ∈ references ∨ c ∉ references.map (·.1) ∧ escapeChar c = [c] := by
  unfold escapeChar
  split
  case h_6 ampersand less greater quote apostrophe =>
    exact .inr ⟨by simpa [references] using ⟨ampersand, less, greater, quote, apostrophe⟩, rfl⟩
  all_goals
    rw [show String.toList _ = _ from String.toList_ofList]
    exact .inl (by decide)

/-- References can be told by their first three characters, and from plain characters by the first
one. -/
theorem escapeChar_append_inj {c d : Char} {rest others : List Char} :
    escapeChar c ++ rest = escapeChar d ++ others ↔ c = d ∧ rest = others := by
  have starts : ∀ one ∈ references, one.2.head? = some '&' ∧ 3 ≤ one.2.length ∧
      ∀ two ∈ references, one.2.take 3 = two.2.take 3 → one.1 = two.1 := by decide
  have apart {c d : Char} {rest others : List Char} (special : (c, escapeChar c) ∈ references)
      (plain : d ∉ references.map (·.1)) : escapeChar c ++ rest ≠ d :: others := by
    intro same
    have first := congrArg List.head? same
    rw [List.head?_append, (starts _ special).1] at first
    exact plain (Option.some.inj first ▸ by decide)
  constructor
  · intro same
    have equal : c = d := by
      rcases escapeChar_cases c with one | ⟨one, alone⟩ <;>
        rcases escapeChar_cases d with two | ⟨two, single⟩
      · have cut := congrArg (List.take 3) same
        rw [List.take_append_of_le_length (starts _ one).2.1,
          List.take_append_of_le_length (starts _ two).2.1] at cut
        exact (starts _ one).2.2 _ two cut
      · exact absurd (single ▸ same) (apart one two)
      · exact absurd (alone ▸ same).symm (apart two one)
      · rw [alone, single] at same
        exact (List.cons.inj same).1
    subst equal
    exact ⟨rfl, List.append_cancel_left same⟩
  · rintro ⟨rfl, rfl⟩
    rfl

theorem escapeChar_ne_nil (c : Char) : escapeChar c ≠ [] := by
  rcases escapeChar_cases c with special | ⟨_, single⟩
  · have filled : ∀ one ∈ references, one.2 ≠ [] := by decide
    exact filled _ special
  · simp [single]

theorem flatMap_escapeChar_inj {text other : List Char} :
    text.flatMap escapeChar = other.flatMap escapeChar ↔ text = other := by
  induction text generalizing other with
  | nil => cases other <;> simp [escapeChar_ne_nil]
  | cons c rest inductionHypothesis =>
    cases other with
    | nil => simp [escapeChar_ne_nil]
    | cons d behind =>
      rw [List.flatMap_cons, List.flatMap_cons, escapeChar_append_inj, inductionHypothesis,
        List.cons.injEq]

theorem escape_inj {first second : String} : escape first = escape second ↔ first = second := by
  rw [escape, escape, String.ofList_inj, flatMap_escapeChar_inj, String.toList_inj]

/-- No angle bracket is left in escaped text. -/
theorem less_notMem_escape (text : String) : '<' ∉ (escape text).toList := by
  rw [escape, String.toList_ofList, List.mem_flatMap]
  rintro ⟨c, _, inside⟩
  rcases escapeChar_cases c with special | ⟨plain, single⟩
  · have clean : ∀ one ∈ references, '<' ∉ one.2 := by decide
    exact clean _ special inside
  · rw [single, List.mem_singleton] at inside
    exact plain (inside ▸ by decide)

/-- Text without special characters is shown as it is. -/
theorem escape_eq_self {text : String} (plain : ∀ c ∈ text.toList, c ∉ references.map (·.1)) :
    escape text = text := by
  have alone (c : Char) (member : c ∈ text.toList) : escapeChar c = [c] := by
    rcases escapeChar_cases c with special | ⟨_, single⟩
    · exact absurd (List.mem_map_of_mem special) (plain c member)
    · exact single
  rw [escape, ← String.toList_inj, String.toList_ofList, List.flatMap_def,
    List.map_congr_left alone, ← List.flatMap_def, List.flatMap_singleton']

/-! ### Tags and the texts behind them -/

/-- A tag of a page with the text between it and the next tag. -/
structure Piece where
  tag : String
  text : String
deriving DecidableEq

/-- The piece that stands behind an opening bracket. -/
def Piece.ofChars (chars : List Char) : Piece :=
  ⟨String.ofList (chars.takeWhile (· ≠ '>')), String.ofList (chars.dropWhile (· ≠ '>')).tail⟩

/-- The pieces of a page, one for each opening bracket. -/
def pieces (page : List Char) : List Piece :=
  (page.splitOn '<').tail.map Piece.ofChars

theorem Piece.ofChars_append {tag : String} (closed : '>' ∉ tag.toList) (text : String) :
    ofChars (tag.toList ++ '>' :: text.toList) = ⟨tag, text⟩ := by
  have inside : ∀ c ∈ tag.toList, decide (c ≠ '>') = true := by
    intro c member
    exact decide_eq_true fun same => closed (same ▸ member)
  rw [ofChars, List.takeWhile_append_of_pos inside, List.dropWhile_append_of_pos inside]
  simp

theorem pieces_of_notMem {text : List Char} (plain : '<' ∉ text) : pieces text = [] := by
  rw [pieces, List.splitOn_eq_singleton plain, List.tail_cons, List.map_nil]

theorem pieces_append_cons (before behind : List Char) :
    pieces (before ++ '<' :: behind) =
      pieces before ++ (behind.splitOn '<').map Piece.ofChars := by
  rw [pieces, List.splitOn_append_cons_self,
    List.tail_append_of_ne_nil (List.splitOn_ne_nil '<' before), List.map_append, pieces]

theorem less_notMem_takeWhile (text : List Char) : '<' ∉ text.takeWhile (· ≠ '<') := by
  intro member
  simpa using List.mem_takeWhile_imp member

/-- What stands before the first tag of a text belongs to the last tag before it. -/
theorem pieces_append (before behind : List Char) :
    pieces (before ++ behind) =
      pieces (before ++ behind.takeWhile (· ≠ '<')) ++ pieces behind := by
  have parted := List.takeWhile_append_dropWhile (p := (· ≠ '<')) (l := behind)
  have plain := less_notMem_takeWhile behind
  cases rest : behind.dropWhile (· ≠ '<') with
  | nil =>
    rw [rest, List.append_nil] at parted
    have bare : pieces behind = [] := pieces_of_notMem (parted ▸ plain)
    rw [parted, bare, List.append_nil]
  | cons c others =>
    have bracket : c = '<' := by
      have first := List.head?_dropWhile_not (· ≠ '<') behind
      rw [rest] at first
      simpa using first
    rw [rest, bracket] at parted
    have own : pieces behind = (others.splitOn '<').map Piece.ofChars := by
      rw [← parted, pieces_append_cons, pieces_of_notMem plain, List.nil_append]
    rw [own, ← pieces_append_cons, List.append_assoc, parted]

/-- A piece that is read as it was written. -/
structure Piece.Sound (piece : Piece) : Prop where
  closed : '>' ∉ piece.tag.toList
  clean : '<' ∉ piece.tag.toList
  clear : '<' ∉ piece.text.toList

/-- A piece that is written behind a text is read as its last one. -/
theorem pieces_concat (before : List Char) {piece : Piece} (sound : piece.Sound) :
    pieces (before ++ '<' :: (piece.tag.toList ++ '>' :: piece.text.toList)) =
      pieces before ++ [piece] := by
  have own : '<' ∉ piece.tag.toList ++ '>' :: piece.text.toList := by
    simp [sound.clean, sound.clear]
  rw [pieces_append_cons, List.splitOn_eq_singleton own, List.map_singleton,
    Piece.ofChars_append sound.closed]

/-- Pieces that are written one after the other. -/
def write (written : List Piece) : List Char :=
  written.flatMap fun piece => '<' :: (piece.tag.toList ++ '>' :: piece.text.toList)

theorem pieces_write {plain : List Char} {written : List Piece} (clean : '<' ∉ plain)
    (sound : ∀ piece ∈ written, piece.Sound) : pieces (plain ++ write written) = written := by
  induction written generalizing plain with
  | nil => rw [write, List.flatMap_nil, List.append_nil, pieces_of_notMem clean]
  | cons piece rest inductionHypothesis =>
    obtain ⟨here, others⟩ := List.forall_mem_cons.mp sound
    have split : write (piece :: rest) =
        '<' :: (piece.tag.toList ++ '>' :: piece.text.toList) ++ write rest := List.flatMap_cons
    have gap : (write rest).takeWhile (· ≠ '<') = [] := by cases rest <;> simp [write]
    have later : pieces (write rest) = rest := inductionHypothesis List.not_mem_nil others
    rw [split, ← List.append_assoc, pieces_append, gap, List.append_nil, pieces_concat plain here,
      later, pieces_of_notMem clean, List.nil_append, List.singleton_append]

/-! ### Rows -/

/-- The functions of a batch with the files they stand in. -/
def listing (reports : List FileReport) : List (String × FunctionReport) :=
  reports.flatMap fun report => report.functions.map (report.file, ·)

/-- What a row shows of a function. -/
def shown (entry : String × FunctionReport) : String × Nat × String × Status × Nat × Nat :=
  (entry.1, entry.2.line, entry.2.name, entry.2.status, entry.2.cyclomatic.total,
    entry.2.cognitive.total)

/-- The tag that opens a row. -/
def rowTag (status : Status) : String :=
  "tr data-status=\"" ++ rowStatus status ++ "\""

/-- The pieces of a row with the given tag and cells, and a text behind it. -/
def rowPieces (tag : String) (cells : List String) (behind : String) : List Piece :=
  ⟨tag, ""⟩ :: cells.flatMap (fun cell => [⟨"td", cell⟩, ⟨"/td", ""⟩]) ++ [⟨"/tr", behind⟩]

/-- The piece without a text that does not stand in a cell. -/
def Piece.bare (piece : Piece) : Piece :=
  if piece.tag = "td" then piece else ⟨piece.tag, ""⟩

theorem rows_eq (reports : List FileReport) :
    rows reports = (listing reports).map fun entry => row entry.1 entry.2 := by
  rw [rows, listing, List.map_flatMap]
  simp only [List.map_map]
  rfl

/-- No cell holds an angle bracket. -/
theorem less_notMem_cells (file : String) (function : FunctionReport) :
    ∀ cell ∈ cells file function, '<' ∉ cell.toList := by
  have number (count : Nat) : '<' ∉ count.repr.toList := fun member =>
    absurd (@Mermaid.isNumeral_of_mem count '<' member) (by decide)
  have dot : '<' ∉ (badge function.status).toList := by
    cases function.status <;> simp [badge]
  simp only [cells, List.mem_cons, List.not_mem_nil, or_false]
  rintro cell (rfl | rfl | rfl | rfl | rfl | rfl)
  · exact less_notMem_escape file
  · exact number _
  · exact less_notMem_escape _
  · exact dot
  · exact number _
  · exact number _

theorem toList_row (entry : String × FunctionReport) (behind : String) :
    (row entry.1 entry.2 ++ behind).toList =
      "        ".toList ++
        write (rowPieces (rowTag entry.2.status) (cells entry.1 entry.2) behind) := by
  have opening : "        <tr data-status=\"" = "        " ++ "<" ++ "tr data-status=\"" := by
    decide +kernel
  have quote : "\">" = "\"" ++ ">" := by decide +kernel
  have cell : "<td>" = "<" ++ "td" ++ ">" := by decide +kernel
  have cellEnd : "</td>" = "<" ++ "/td" ++ ">" := by decide +kernel
  have rowEnd : "</tr>" = "<" ++ "/tr" ++ ">" := by decide +kernel
  have less : "<".toList = ['<'] := rfl
  have greater : ">".toList = ['>'] := rfl
  have empty : "".toList = [] := rfl
  unfold row write rowPieces rowTag
  rw [opening, rowEnd, quote, cell, cellEnd]
  generalize "tr data-status=\"" = start, "        " = indent, "td" = word, "/td" = wordEnd,
    "/tr" = stop, "\"" = mark
  simp only [String.toList_append, less, greater, empty, String.toList_join, List.flatMap_map,
    List.flatMap_assoc, List.flatMap_cons, List.flatMap_append, List.flatMap_nil,
    List.append_assoc, List.cons_append, List.nil_append, List.append_nil]

theorem rowPieces_sound (entry : String × FunctionReport) {behind : String}
    (plain : '<' ∉ behind.toList) :
    ∀ piece ∈ rowPieces (rowTag entry.2.status) (cells entry.1 entry.2) behind, piece.Sound := by
  have tag : '>' ∉ (rowTag entry.2.status).toList ∧ '<' ∉ (rowTag entry.2.status).toList := by
    cases entry.2.status <;> decide +kernel
  simp only [rowPieces, List.cons_append, List.mem_cons, List.mem_append, List.mem_flatMap,
    List.not_mem_nil, or_false]
  rintro piece (rfl | ⟨cell, member, rfl | rfl⟩ | rfl)
  · exact ⟨tag.1, tag.2, List.not_mem_nil⟩
  · have word : '>' ∉ "td".toList ∧ '<' ∉ "td".toList := by decide
    exact ⟨word.1, word.2, less_notMem_cells _ _ cell member⟩
  · exact ⟨by decide, by decide, List.not_mem_nil⟩
  · have word : '>' ∉ "/tr".toList ∧ '<' ∉ "/tr".toList := by decide
    exact ⟨word.1, word.2, plain⟩

theorem pieces_row (entry : String × FunctionReport) {behind : String}
    (plain : '<' ∉ behind.toList) :
    pieces (row entry.1 entry.2 ++ behind).toList =
      rowPieces (rowTag entry.2.status) (cells entry.1 entry.2) behind := by
  rw [toList_row, pieces_write (by decide) (rowPieces_sound entry plain)]

/-- The pieces of the row of a function, without what stands behind it. -/
def entryPieces (entry : String × FunctionReport) : List Piece :=
  rowPieces (rowTag entry.2.status) (cells entry.1 entry.2) ""

theorem map_bare_pieces_row (entry : String × FunctionReport) {behind : String}
    (plain : '<' ∉ behind.toList) :
    (pieces (row entry.1 entry.2 ++ behind).toList).map Piece.bare = entryPieces entry := by
  have tag : rowTag entry.2.status ≠ "td" := by
    cases entry.2.status <;> decide +kernel
  rw [pieces_row entry plain, entryPieces]
  simp [rowPieces, Piece.bare, tag, List.map_flatMap]

/-- The rows of a table, one to a line, are read row by row. -/
theorem map_bare_pieces_rows (entries : List (String × FunctionReport)) {behind : List Char}
    (plain : '<' ∉ behind) :
    (pieces (['\n'].intercalate (entries.map fun entry => (row entry.1 entry.2).toList) ++
      behind)).map Piece.bare = entries.flatMap entryPieces := by
  have one (entry : String × FunctionReport) {after : List Char} (clean : '<' ∉ after) :
      (pieces ((row entry.1 entry.2).toList ++ after)).map Piece.bare = entryPieces entry := by
    rw [← @map_bare_pieces_row entry (String.ofList after) (by simpa using clean),
      String.toList_append, String.toList_ofList]
  induction entries with
  | nil =>
    rw [List.map_nil, List.intercalate_nil, List.nil_append, pieces_of_notMem plain]
    rfl
  | cons entry rest inductionHypothesis =>
    cases rest with
    | nil => simpa using one entry plain
    | cons next others =>
      have clean (text : List Char) : '<' ∉ '\n' :: text.takeWhile (· ≠ '<') :=
        List.not_mem_cons_of_ne_of_not_mem (by decide) (less_notMem_takeWhile text)
      rw [List.map_cons] at inductionHypothesis
      rw [List.map_cons, List.map_cons, List.intercalate_cons_cons, List.append_assoc,
        pieces_append, List.append_assoc, List.singleton_append, List.map_append,
        one entry (clean _), inductionHypothesis, ← List.flatMap_cons]

/-! ### The page -/

/-- A property of a text given line by line can be checked on the characters of the lines. -/
theorem holds_lines {p : List Char → Prop} {lines : List String} {spellings : List (List Char)}
    (spelled : List.Forall₂ (fun line spelling => line = String.ofList spelling) lines spellings)
    (holds : p (['\n'].intercalate spellings)) : p ("\n".intercalate lines).toList := by
  have same : lines.map String.toList = spellings := by
    clear holds
    induction spelled with
    | nil => rfl
    | cons first _ inductionHypothesis =>
      rw [List.map_cons, first, String.toList_ofList, inductionHypothesis]
  rw [String.toList_intercalate, same]
  exact holds

set_option maxRecDepth 4000 in
theorem head_eq : ∃ above, head.toList = above ++ ['<', 'p', '>'] ∧
    ∀ piece ∈ pieces above, piece.tag ≠ "p" ∧ piece.tag ≠ "tbody" :=
  ⟨head.toList.rdrop 3,
    holds_lines (p := fun text => text = text.rdrop 3 ++ ['<', 'p', '>'] ∧
      ∀ piece ∈ pieces (text.rdrop 3), piece.tag ≠ "p" ∧ piece.tag ≠ "tbody")
      (by repeat constructor) (by decide +kernel)⟩

set_option maxRecDepth 4000 in
theorem middle_eq : ∃ upper,
    middle.toList = '<' :: (upper ++ ['<', 't', 'b', 'o', 'd', 'y', '>', '\n']) ∧
      ∀ piece ∈ pieces ('<' :: upper), piece.tag ≠ "tbody" :=
  ⟨middle.toList.tail.rdrop 8,
    holds_lines (p := fun text =>
      text = '<' :: (text.tail.rdrop 8 ++ ['<', 't', 'b', 'o', 'd', 'y', '>', '\n']) ∧
        ∀ piece ∈ pieces ('<' :: text.tail.rdrop 8), piece.tag ≠ "tbody")
      (by repeat constructor) (by decide +kernel)⟩

set_option maxRecDepth 4000 in
theorem tag_foot : (pieces foot.toList).head?.map (·.tag) = some "/tbody" :=
  holds_lines (p := fun text => (pieces text).head?.map (·.tag) = some "/tbody")
    (by repeat constructor) (by decide +kernel)

/-- The text of the first paragraph of a page. -/
def summary? (page : String) : Option String :=
  ((pieces page.toList).find? (·.tag = "p")).map (·.text)

/-- The pieces of the body of the table of a page. -/
def tableBody (page : String) : List Piece :=
  ((pieces page.toList).dropWhile (·.tag ≠ "tbody")).tail.takeWhile (·.tag ≠ "/tbody")

theorem notMem_summaryText (reports : List FileReport) :
    ∀ c ∈ (summaryText reports).toList, c ∉ references.map (·.1) := by
  have number (count : Nat) : ∀ c ∈ (toString count).toList, c ∉ references.map (·.1) := by
    intro c member special
    have other : ∀ c ∈ references.map (·.1), Mermaid.isNumeral c = false := by
      simp only [references, List.map_cons, List.map_nil, List.forall_mem_cons]
      exact ⟨rfl, rfl, rfl, rfl, rfl, fun _ member => absurd member List.not_mem_nil⟩
    exact Bool.false_ne_true ((other c special).symm.trans
      (@Mermaid.isNumeral_of_mem count c member))
  unfold summaryText
  simp only [String.toList_append, List.forall_mem_append]
  refine ⟨⟨⟨⟨⟨⟨⟨number _, ?_⟩, number _⟩, ?_⟩, number _⟩, ?_⟩, number _⟩, ?_⟩
  all_goals simp [references]

/-- A page is read in parts: all above the summary, the summary, all above the table, the table,
and all below it. -/
theorem pieces_parts (above upper table below : List Char) {summary : String}
    (clean : '<' ∉ summary.toList) : ∃ blank,
    pieces (above ++ ['<', 'p', '>'] ++ (summary.toList ++
        ('<' :: (upper ++ ['<', 't', 'b', 'o', 'd', 'y', '>', '\n']) ++ (table ++ below)))) =
      pieces above ++ ⟨"p", summary⟩ :: (pieces ('<' :: upper) ++ ⟨"tbody", blank⟩ ::
        (pieces (table ++ below.takeWhile (· ≠ '<')) ++ pieces below)) := by
  have untilTable (rest : List Char) :
      (summary.toList ++ '<' :: rest).takeWhile (· ≠ '<') = summary.toList := by
    rw [List.takeWhile_append_of_pos, List.takeWhile_cons_of_neg (by decide), List.append_nil]
    exact fun c member => decide_eq_true fun same => clean (same ▸ member)
  have paragraph : pieces (above ++ ['<', 'p', '>'] ++ summary.toList) =
      pieces above ++ [⟨"p", summary⟩] := by
    have word : "p".toList = ['p'] := rfl
    have sound : Piece.Sound ⟨"p", summary⟩ := ⟨by simp [word], by simp [word], clean⟩
    rw [← pieces_concat above sound, word, List.append_assoc]
    rfl
  have heading (text : List Char) (clear : '<' ∉ text) :
      pieces ('<' :: (upper ++ ['<', 't', 'b', 'o', 'd', 'y', '>', '\n']) ++ text) =
        pieces ('<' :: upper) ++ [⟨"tbody", String.ofList ('\n' :: text)⟩] := by
    have word : "tbody".toList = ['t', 'b', 'o', 'd', 'y'] := rfl
    have sound : Piece.Sound ⟨"tbody", String.ofList ('\n' :: text)⟩ :=
      ⟨by simp [word], by simp [word], by simpa using clear⟩
    rw [← pieces_concat _ sound, word, String.toList_ofList]
    simp
  refine ⟨String.ofList ('\n' :: (table ++ below).takeWhile (· ≠ '<')), ?_⟩
  rw [pieces_append, List.cons_append, untilTable, paragraph, pieces_append summary.toList,
    List.takeWhile_cons_of_neg (by decide), List.append_nil, pieces_of_notMem clean,
    List.nil_append, ← List.cons_append, pieces_append _ (table ++ below),
    heading _ (less_notMem_takeWhile _), pieces_append table, List.append_assoc, List.append_assoc,
    List.singleton_append, List.singleton_append]

theorem exists_pieces_page (reports : List FileReport) :
    ∃ (above between body below : List Piece) (blank : String),
    pieces (page reports).toList = above ++ ⟨"p", summaryText reports⟩ ::
        (between ++ ⟨"tbody", blank⟩ :: (body ++ below)) ∧
      (∀ piece ∈ above, piece.tag ≠ "p" ∧ piece.tag ≠ "tbody") ∧
      (∀ piece ∈ between, piece.tag ≠ "tbody") ∧
      body.map Piece.bare = (listing reports).flatMap entryPieces ∧
      below.head?.map (·.tag) = some "/tbody" := by
  have plain : escape (summaryText reports) = summaryText reports :=
    escape_eq_self (notMem_summaryText reports)
  have clean : '<' ∉ (summaryText reports).toList := fun member =>
    notMem_summaryText reports '<' member (by decide)
  obtain ⟨above, headEnd, headTags⟩ := head_eq
  obtain ⟨upper, middleEnd, middleTags⟩ := middle_eq
  have lines : ("\n".intercalate (rows reports)).toList =
      ['\n'].intercalate ((listing reports).map fun entry => (row entry.1 entry.2).toList) := by
    rw [String.toList_intercalate, rows_eq, List.map_map]
    rfl
  obtain ⟨blank, parts⟩ := pieces_parts above upper
    (['\n'].intercalate ((listing reports).map fun entry => (row entry.1 entry.2).toList))
    foot.toList clean
  refine ⟨_, _, _, _, blank, ?_, headTags, middleTags,
    map_bare_pieces_rows _ (less_notMem_takeWhile foot.toList), tag_foot⟩
  unfold page
  rw [plain, String.toList_append, String.toList_append, String.toList_append,
    String.toList_append, lines, headEnd, middleEnd, List.append_assoc, List.append_assoc,
    List.append_assoc]
  exact parts

theorem summary?_page (reports : List FileReport) :
    summary? (page reports) = some (summaryText reports) := by
  obtain ⟨above, between, body, below, blank, parts, headTags, _⟩ := exists_pieces_page reports
  have absent : above.find? (·.tag = "p") = none := by
    simpa using fun piece member => (headTags piece member).1
  rw [summary?, parts, List.find?_append, absent, Option.none_or, List.find?_cons_of_pos (by simp)]
  rfl

theorem entryPieces_tag_ne (entry : String × FunctionReport) :
    ∀ piece ∈ entryPieces entry, piece.tag ≠ "/tbody" := by
  have tag : rowTag entry.2.status ≠ "/tbody" := by
    cases entry.2.status <;> decide +kernel
  simp [entryPieces, rowPieces, tag, cells]

theorem Piece.tag_bare (piece : Piece) : piece.bare.tag = piece.tag := by
  rw [bare]
  split <;> rfl

/-- The body of the table holds the rows and nothing else. -/
theorem map_bare_tableBody (reports : List FileReport) :
    (tableBody (page reports)).map Piece.bare = (listing reports).flatMap entryPieces := by
  obtain ⟨above, between, body, below, blank, parts, headTags, middleTags, rows, ends⟩ :=
    exists_pieces_page reports
  have before : ∀ piece ∈ above ++ ⟨"p", summaryText reports⟩ :: between,
      decide (piece.tag ≠ "tbody") = true := by
    simp only [List.forall_mem_append, List.forall_mem_cons]
    exact ⟨fun piece member => decide_eq_true (headTags piece member).2, by simp,
      fun piece member => decide_eq_true (middleTags piece member)⟩
  have inside : ∀ piece ∈ body, decide (piece.tag ≠ "/tbody") = true := by
    intro piece member
    have shown : piece.bare ∈ (listing reports).flatMap entryPieces :=
      rows ▸ List.mem_map_of_mem member
    obtain ⟨entry, _, among⟩ := List.mem_flatMap.mp shown
    exact decide_eq_true (piece.tag_bare ▸ entryPieces_tag_ne entry _ among)
  have stop : below.takeWhile (·.tag ≠ "/tbody") = [] := by
    cases below with
    | nil => rfl
    | cons piece _ => rw [List.takeWhile_cons_of_neg (by simpa using ends)]
  rw [tableBody, parts, ← List.cons_append, ← List.append_assoc,
    List.dropWhile_append_of_pos before, List.dropWhile_cons_of_neg (by simp), List.tail_cons,
    List.takeWhile_append_of_pos inside, stop, List.append_nil, rows]

/-! ### Counting rows and cells -/

/-- The name of the element that a tag opens; that of an end tag begins with a slash. -/
def element (tag : String) : String :=
  String.ofList (tag.toList.takeWhile (· ≠ ' '))

/-- The tags of a row. -/
def rowTags (status : Status) : List String :=
  rowTag status :: (List.replicate 6 ["td", "/td"]).flatten ++ ["/tr"]

theorem map_tag_entryPieces (entry : String × FunctionReport) :
    (entryPieces entry).map (·.tag) = rowTags entry.2.status := by
  simp [entryPieces, rowPieces, rowTags, cells, List.replicate]

theorem map_snd_listing (reports : List FileReport) :
    (listing reports).map (·.2) = reports.flatMap (·.functions) := by
  simp [listing, List.map_flatMap, Function.comp_def]

theorem map_tag_tableBody (reports : List FileReport) :
    (tableBody (page reports)).map (·.tag) =
      (reports.flatMap (·.functions)).flatMap fun function => rowTags function.status := by
  have tags := congrArg (List.map (·.tag)) (map_bare_tableBody reports)
  rw [List.map_map, List.map_congr_left fun piece _ => piece.tag_bare, List.map_flatMap] at tags
  rw [tags, ← map_snd_listing, List.flatMap_map]
  simp only [map_tag_entryPieces]

/-- What is counted in the rows one by one is counted in the body of the table. -/
theorem countP_tableBody (reports : List FileReport) {keep : String → Bool}
    {counted : Status → Nat} (each : ∀ status, (rowTags status).countP keep = counted status) :
    (tableBody (page reports)).countP (keep ·.tag) =
      ((reports.flatMap (·.functions)).map (counted ·.status)).sum := by
  have tags := congrArg (List.countP keep) (map_tag_tableBody reports)
  rw [List.countP_map, List.countP_flatMap] at tags
  simp only [Function.comp_def, each] at tags
  exact tags

theorem countP_rowTag_tableBody (reports : List FileReport) (status : Status) :
    (tableBody (page reports)).countP (·.tag = rowTag status) = countStatus reports status := by
  have each (other : Status) : (rowTags other).countP (· = rowTag status) =
      if other = status then 1 else 0 := by
    cases other <;> cases status <;> decide +kernel
  rw [countP_tableBody reports each, countStatus]
  induction reports.flatMap (·.functions) with
  | nil => rfl
  | cons function rest inductionHypothesis =>
    rw [List.map_cons, List.sum_cons, inductionHypothesis, List.countP_cons, Nat.add_comm]
    simp

/-! ### Telling pages apart -/

theorem length_eq_of_summaryText_eq {reports others : List FileReport}
    (same : summaryText reports = summaryText others) : reports.length = others.length := by
  have stop (rest : String) : Mermaid.Stops (" files, " ++ rest).toList := by
    rw [String.toList_append]
    exact Mermaid.stops_cons rfl _
  have number (count : Nat) : toString count = toString (count : Int) := rfl
  have chars := congrArg String.toList same
  unfold summaryText at chars
  rw [number reports.length, number others.length] at chars
  simp only [String.append_assoc] at chars
  generalize toString (rows reports).length ++ _ = rest,
    toString (rows others).length ++ _ = behind at chars
  rw [String.toList_append, String.toList_append (s := toString (others.length : Int)),
    Mermaid.number_append_inj (stop rest) (stop behind)] at chars
  exact Int.ofNat.inj chars.1

theorem length_entryPieces (entry : String × FunctionReport) :
    (entryPieces entry).length = 13 + 1 := by
  simp [entryPieces, rowPieces, cells]

/-- A row shows what it says of its function. -/
theorem entryPieces_inj (entry other : String × FunctionReport) :
    entryPieces entry = entryPieces other ↔ shown entry = shown other := by
  have dots (first second : Status) : badge first = badge second ↔ first = second := by
    cases first <;> cases second <;> decide +kernel
  have numbers (first second : Nat) : toString first = toString second ↔ first = second := by
    rw [← Int.ofNat_inj, ← Mermaid.toString_inj]
    rfl
  constructor
  · intro same
    simp only [entryPieces, rowPieces, cells, List.flatMap_cons, List.flatMap_nil,
      List.cons_append, List.nil_append, List.cons.injEq, Piece.mk.injEq, true_and, and_true]
      at same
    obtain ⟨-, file, line, name, status, cyclomatic, cognitive⟩ := same
    rw [escape_inj, String.append_left_inj] at name
    rw [shown, shown, escape_inj.mp file, (numbers _ _).mp line, name, (dots _ _).mp status,
      (numbers _ _).mp cyclomatic, (numbers _ _).mp cognitive]
  · intro same
    simp only [shown, Prod.mk.injEq] at same
    obtain ⟨file, line, name, status, cyclomatic, cognitive⟩ := same
    rw [entryPieces, entryPieces, cells, cells, file, line, name, status, cyclomatic, cognitive]

/-- The page depends on nothing but what is shown of the functions and the number of files. -/
theorem page_congr {reports others : List FileReport} (files : reports.length = others.length)
    (same : (listing reports).map shown = (listing others).map shown) :
    page reports = page others := by
  have rowsOf (reports : List FileReport) : rows reports =
      ((listing reports).map shown).map fun entry => row entry.1
        ⟨entry.2.2.1, entry.2.1, ⟨entry.2.2.2.2.1, []⟩, ⟨entry.2.2.2.2.2, []⟩, entry.2.2.2.1⟩ := by
    rw [rows_eq, List.map_map]
    rfl
  have countOf (reports : List FileReport) (status : Status) : countStatus reports status =
      ((listing reports).map shown).countP (·.2.2.2.1 = status) := by
    rw [countStatus, ← map_snd_listing, List.countP_map, List.countP_map]
    rfl
  unfold page summaryText
  rw [rowsOf, rowsOf, countOf, countOf, countOf, countOf, files, same]

end Html

/-- Two pages are the same exactly if they are about as many files and show the same functions.
The body of the table is one row of six cells for each function, whatever the names, and the
summary counts the rows by their tags. -/
theorem page_eq_page_iff (reports others : List FileReport) :
    (Html.page reports = Html.page others ↔
      reports.length = others.length ∧
        (Html.listing reports).map Html.shown = (Html.listing others).map Html.shown) ∧
    (let functions := reports.flatMap (·.functions)
      let body := Html.tableBody (Html.page reports)
      body.map (·.tag) = functions.flatMap (fun function => Html.rowTags function.status) ∧
        body.countP (Html.element ·.tag = "tr") = functions.length ∧
        body.countP (Html.element ·.tag = "td") = 6 * functions.length ∧
        Html.summary? (Html.page reports) =
          some (toString reports.length ++ " files, " ++ toString functions.length ++
            " functions, " ++ toString (body.countP (·.tag = "tr data-status=\"error\"")) ++
            " errors, " ++ toString (body.countP (·.tag = "tr data-status=\"warning\"")) ++
            " warnings")) := by
  have apart : Html.page reports = Html.page others ↔ reports.length = others.length ∧
      (Html.listing reports).map Html.shown = (Html.listing others).map Html.shown := by
    refine ⟨fun same => ⟨?_, ?_⟩, fun ⟨files, same⟩ => Html.page_congr files same⟩
    · have summary := congrArg Html.summary? same
      rw [Html.summary?_page, Html.summary?_page] at summary
      exact Html.length_eq_of_summaryText_eq (Option.some.inj summary)
    · have body := congrArg (fun page => (Html.tableBody page).map Html.Piece.bare) same
      simp only [Html.map_bare_tableBody] at body
      rwa [flatMap_inj_of_length Html.length_entryPieces,
        map_eq_map_iff_of_iff Html.entryPieces_inj] at body
  have rows (status : Status) : (Html.rowTags status).countP (Html.element · = "tr") = 1 := by
    cases status <;> decide +kernel
  have cells (status : Status) : (Html.rowTags status).countP (Html.element · = "td") = 6 := by
    cases status <;> decide +kernel
  have tags : Html.rowTag .error = "tr data-status=\"error\"" ∧
      Html.rowTag .warning = "tr data-status=\"warning\"" := by decide +kernel
  refine ⟨apart, Html.map_tag_tableBody reports, ?_, ?_, ?_⟩
  · rw [Html.countP_tableBody reports rows]
    simp
  · rw [Html.countP_tableBody reports cells]
    simp [Nat.mul_comm]
  · rw [Html.summary?_page, ← tags.1, ← tags.2, Html.countP_rowTag_tableBody,
      Html.countP_rowTag_tableBody, ← Html.map_snd_listing, List.length_map]
    unfold Html.summaryText
    rw [Html.rows_eq, List.length_map]

end Tangle

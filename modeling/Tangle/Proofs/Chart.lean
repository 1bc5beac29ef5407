/-
This file shows that a chart tells its graph. Labels are text from anywhere, with
quotes, brackets, arrows and line breaks in them, but once they are escaped none
of them holds a double quote or a line break. So a chart falls back into its
lines, a line into its parts, and the only thing that is lost on the way is what
escaping loses. Entry and exit look the same in their own lines; it is by their
colours that they differ.
-/

import Tangle.Mermaid
import Mathlib

namespace Tangle

/-- Two lists can be told from what stands behind them where that begins with something neither of
them holds. -/
theorem append_inj_of_stop {α : Type} {keep : α → Bool} {first second rest others : List α}
    (one : ∀ item ∈ first, keep item = true) (two : ∀ item ∈ second, keep item = true)
    (stop : ∀ item ∈ rest.head?, keep item = false)
    (halt : ∀ item ∈ others.head?, keep item = false) :
    first ++ rest = second ++ others ↔ first = second ∧ rest = others := by
  have cut {before behind : List α} (all : ∀ item ∈ before, keep item = true)
      (ends : ∀ item ∈ behind.head?, keep item = false) :
      (before ++ behind).takeWhile keep = before := by
    rw [List.takeWhile_append_of_pos all]
    cases behind with
    | nil => exact List.append_nil _
    | cons next _ =>
      rw [List.takeWhile_cons_of_neg (by simp [ends next rfl]), List.append_nil]
  constructor
  · intro same
    have equal := congrArg (List.takeWhile keep) same
    rw [cut one stop, cut two halt] at equal
    exact ⟨equal, List.append_cancel_left (equal ▸ same)⟩
  · rintro ⟨rfl, rfl⟩
    rfl

/-- What two functions tell apart alike they tell apart alike in lists. -/
theorem map_eq_map_iff_of_iff {α β γ : Type} {view : α → β} {key : α → γ}
    (same : ∀ first second, view first = view second ↔ key first = key second)
    (items others : List α) :
    items.map view = others.map view ↔ items.map key = others.map key := by
  induction items generalizing others with
  | nil => cases others <;> simp
  | cons item rest inductionHypothesis =>
    cases others with
    | nil => simp
    | cons other behind =>
      rw [List.map_cons, List.map_cons, List.map_cons, List.map_cons, List.cons.injEq,
        List.cons.injEq, same, inductionHypothesis]

theorem map_pair_inj {α β γ : Type} {view : α → β} {key : α → γ} {items others : List α} :
    items.map (fun item => (view item, key item)) = others.map (fun item => (view item, key item)) ↔
      items.map view = others.map view ∧ items.map key = others.map key := by
  rw [← List.zip_map', ← List.zip_map']
  constructor
  · intro same
    have split := congrArg List.unzip same
    simpa [List.unzip_zip] using split
  · rintro ⟨first, second⟩
    rw [first, second]

/-! ### Escaped text -/

namespace Text

theorem isBlank_eq_false_of_mem_wordsOnto {word text : List Char}
    (begun : ∀ c ∈ word, isBlank c = false) :
    ∀ found ∈ wordsOnto word text, ∀ c ∈ found, isBlank c = false := by
  induction text generalizing word with
  | nil =>
    rw [wordsOnto]
    split
    next => exact fun _ member => absurd member List.not_mem_nil
    next => simpa using begun
  | cons c rest inductionHypothesis =>
    have anew := inductionHypothesis fun _ member => absurd member List.not_mem_nil
    rw [wordsOnto]
    split
    next =>
      split
      next => exact anew
      next => exact List.forall_mem_cons.mpr ⟨by simpa using begun, anew⟩
    next letter =>
      exact inductionHypothesis (List.forall_mem_cons.mpr ⟨Bool.eq_false_iff.mpr letter, begun⟩)

theorem mem_intercalate {α : Type} {item : α} {separator : List α} {parts : List (List α)}
    (member : item ∈ separator.intercalate parts) :
    item ∈ separator ∨ ∃ part ∈ parts, item ∈ part := by
  induction parts with
  | nil => simp [List.intercalate] at member
  | cons part rest inductionHypothesis =>
    cases rest with
    | nil => exact .inr ⟨part, List.mem_cons_self, by simpa [List.intercalate] using member⟩
    | cons next others =>
      rw [List.intercalate_cons_cons, List.append_assoc, List.mem_append, List.mem_append] at member
      obtain here | between | behind := member
      · exact .inr ⟨part, List.mem_cons_self, here⟩
      · exact .inl between
      · refine (inductionHypothesis behind).imp_right ?_
        exact fun ⟨other, among, inside⟩ => ⟨other, List.mem_cons_of_mem _ among, inside⟩

/-- Of all blanks only the space is left in a collapsed text. -/
theorem eq_space_of_mem_collapse {c : Char} {text : List Char} (member : c ∈ collapse text)
    (blank : isBlank c = true) : c = ' ' := by
  obtain space | ⟨word, among, inside⟩ := mem_intercalate member
  · exact List.mem_singleton.mp space
  · have letter := isBlank_eq_false_of_mem_wordsOnto
      (fun _ member => absurd member List.not_mem_nil) word among c inside
    rw [letter] at blank
    cases blank

end Text

namespace Mermaid

theorem quote_notMem_escapeLabel (text : String) : '"' ∉ (escapeLabel text).toList := by
  rw [escapeLabel, String.toList_ofList, List.mem_map]
  rintro ⟨c, _, same⟩
  split at same
  next => cases same
  next other => exact other (beq_iff_eq.mpr same)

theorem newline_notMem_escapeLabel (text : String) : '\n' ∉ (escapeLabel text).toList := by
  rw [escapeLabel, String.toList_ofList, List.mem_map]
  rintro ⟨c, member, same⟩
  split at same
  next => cases same
  next =>
    subst same
    have space := Text.eq_space_of_mem_collapse member (by decide)
    cases space

/-! ### Numbers -/

/-- The characters of numbers. -/
def isNumeral (c : Char) : Bool :=
  c.isDigit || c == '-'

theorem isNumeral_of_mem {number : Int} {c : Char} (member : c ∈ (toString number).toList) :
    isNumeral c = true := by
  have digit {count : Nat} (inside : c ∈ count.repr.toList) : c.isDigit = true := by
    rw [Nat.repr_eq_ofList_toDigits, String.toList_ofList] at inside
    exact Nat.isDigit_of_mem_toDigits (by decide) (by decide) inside
  rw [isNumeral, Bool.or_eq_true, beq_iff_eq]
  cases number with
  | ofNat count => exact .inl (digit member)
  | negSucc count =>
    have split : c ∈ "-".toList ++ count.succ.repr.toList := String.toList_append ▸ member
    exact (List.mem_append.mp split).symm.imp digit List.mem_singleton.mp

theorem toString_inj {first second : Int} : toString first = toString second ↔ first = second := by
  constructor
  · intro same
    have read := congrArg String.toInt? same
    exact Option.some.inj ((Int.toInt?_repr first).symm.trans (read.trans (Int.toInt?_repr second)))
  · rintro rfl
    rfl

/-- The text does not go on with a number. -/
def Stops (text : List Char) : Prop :=
  ∀ c ∈ text.head?, isNumeral c = false

theorem stops_cons {c : Char} (other : isNumeral c = false) (rest : List Char) :
    Stops (c :: rest) := by
  rintro _ ⟨⟩
  exact other

/-- A number can be told from what stands behind it. -/
theorem number_append_inj {first second : Int} {rest others : List Char} (stop : Stops rest)
    (halt : Stops others) :
    (toString first).toList ++ rest = (toString second).toList ++ others ↔
      first = second ∧ rest = others := by
  rw [append_inj_of_stop (fun _ => isNumeral_of_mem) (fun _ => isNumeral_of_mem) stop halt,
    String.toList_inj, toString_inj]

/-! ### Lines -/

/-- What is shown of a label that may be absent: an empty label is not shown, any other is shown
escaped. -/
def shown? (label : Option String) : Option String :=
  (label.filter (· ≠ "")).map escapeLabel

/-- The brackets around the text of a vertex. -/
def brackets : VertexKind → String × String
  | .entry | .exit => ("([\"", "\"])")
  | .decision => ("\x7b\"", "\"\x7d")
  | .statement => ("[\"", "\"]")

/-- The arrow of an edge, with what is shown of its label. -/
def arrow : Option String → String
  | none => " --> N"
  | some text => " -->|\"" ++ text ++ "\"| N"

theorem stops_brackets (kind : VertexKind) (behind : List Char) :
    Stops ((brackets kind).1.toList ++ behind) := by
  cases kind <;> exact stops_cons rfl _

theorem stops_arrow (label : Option String) (behind : List Char) :
    Stops ((arrow label).toList ++ behind) := by
  cases label with
  | none => exact stops_cons rfl _
  | some text =>
    rw [arrow, String.toList_append, String.toList_append, List.append_assoc, List.append_assoc]
    exact stops_cons rfl _

theorem shown?_of_ne {text : String} (filled : text ≠ "") :
    shown? (some text) = some (escapeLabel text) := by
  simp [shown?, filled]

theorem toList_vertexLine (vertex : Vertex) :
    (vertexLine vertex).toList = "    N".toList ++ ((toString vertex.id).toList ++
      ((brackets vertex.kind).1.toList ++
        ((escapeLabel vertex.label).toList ++ (brackets vertex.kind).2.toList))) := by
  rw [vertexLine, vertexName]
  cases vertex.kind <;> simp [brackets]

theorem toList_edgeLine (edge : Edge) :
    (edgeLine edge).toList = "    N".toList ++ ((toString edge.source).toList ++
      ((arrow (shown? edge.label)).toList ++ (toString edge.target).toList)) := by
  have blank : shown? (some "") = none := rfl
  rw [edgeLine]
  split
  next absent => simp [absent, shown?, arrow, vertexName]
  next empty => simp [empty, blank, arrow, vertexName]
  next label filled labelled => simp [labelled, shown?_of_ne filled, arrow, vertexName]

theorem toList_styleLine (vertex : Vertex) :
    (styleLine vertex).toList = "    style N".toList ++ ((toString vertex.id).toList ++
      ' ' :: (colours vertex.kind).toList) := by
  simp [styleLine, vertexName]

/-- A vertex is told by its line and the line of its colours. -/
theorem vertex_lines_inj {vertex other : Vertex} :
    (vertexLine vertex, styleLine vertex) = (vertexLine other, styleLine other) ↔
      (vertex.id, vertex.kind, escapeLabel vertex.label) =
        (other.id, other.kind, escapeLabel other.label) := by
  have coloured : styleLine vertex = styleLine other ↔
      vertex.id = other.id ∧ vertex.kind = other.kind := by
    rw [← String.toList_inj, toList_styleLine, toList_styleLine, List.append_cancel_left_eq,
      number_append_inj (stops_cons rfl _) (stops_cons rfl _), List.cons.injEq, String.toList_inj]
    refine and_congr_right fun _ => ⟨fun ⟨_, same⟩ => ?_, fun same => ⟨rfl, congrArg _ same⟩⟩
    revert same
    cases vertex.kind <;> cases other.kind <;> decide
  have lettered (kind : vertex.kind = other.kind) : vertexLine vertex = vertexLine other ↔
      vertex.id = other.id ∧ escapeLabel vertex.label = escapeLabel other.label := by
    rw [← String.toList_inj, toList_vertexLine, toList_vertexLine, kind,
      List.append_cancel_left_eq, number_append_inj (stops_brackets _ _) (stops_brackets _ _),
      List.append_cancel_left_eq, List.append_cancel_right_eq, String.toList_inj]
  rw [Prod.mk.injEq, Prod.mk.injEq, Prod.mk.injEq, coloured]
  constructor
  · rintro ⟨line, id, kind⟩
    exact ⟨id, kind, ((lettered kind).mp line).2⟩
  · rintro ⟨id, kind, label⟩
    exact ⟨(lettered kind).mpr ⟨id, label⟩, id, kind⟩

/-- An arrow shows where its label ends, as no label holds a double quote. -/
theorem arrow_append_inj {label other : Option String} {target goal : Int}
    (clean : ∀ text ∈ label, '"' ∉ text.toList) (clear : ∀ text ∈ other, '"' ∉ text.toList) :
    (arrow label).toList ++ (toString target).toList =
        (arrow other).toList ++ (toString goal).toList ↔ label = other ∧ target = goal := by
  have unquoted {text : String} (free : '"' ∉ text.toList) :
      ∀ c ∈ text.toList, (c != '"') = true := by
    intro c member
    rw [bne_iff_ne]
    rintro rfl
    exact free member
  have quoted (text : String) (number : Int) :
      (arrow (some text)).toList ++ (toString number).toList = " -->|\"".toList ++
        (text.toList ++ '"' :: ("| N".toList ++ (toString number).toList)) := by
    simp [arrow]
  have quote (behind : List Char) : ∀ c ∈ ('"' :: behind).head?, (c != '"') = false := by
    rintro _ ⟨⟩
    rfl
  rcases label with _ | text <;> rcases other with _ | twin
  · rw [List.append_cancel_left_eq, String.toList_inj, toString_inj]
    simp
  · simp [arrow]
  · simp [arrow]
  · rw [quoted, quoted, List.append_cancel_left_eq,
      append_inj_of_stop (unquoted (clean text rfl)) (unquoted (clear twin rfl)) (quote _)
        (quote _),
      List.cons.injEq, List.append_cancel_left_eq, String.toList_inj, String.toList_inj,
      toString_inj]
    simp

theorem quote_notMem_of_shown? (label : Option String) :
    ∀ text ∈ shown? label, '"' ∉ text.toList := by
  intro text visible
  obtain ⟨_, _, rfl⟩ := Option.map_eq_some_iff.mp visible
  exact quote_notMem_escapeLabel _

theorem edgeLine_inj {edge other : Edge} :
    edgeLine edge = edgeLine other ↔
      (edge.source, edge.target, shown? edge.label) =
        (other.source, other.target, shown? other.label) := by
  rw [← String.toList_inj, toList_edgeLine, toList_edgeLine, List.append_cancel_left_eq,
    number_append_inj (stops_arrow _ _) (stops_arrow _ _),
    arrow_append_inj (quote_notMem_of_shown? _) (quote_notMem_of_shown? _), Prod.mk.injEq,
    Prod.mk.injEq, and_comm (a := shown? edge.label = shown? other.label)]

/-! ### Charts -/

/-- The character by which the sorts of lines differ: what stands behind the number in the lines of
vertices and edges, and a letter of the word in those of styles. -/
def mark (line : String) : Option Char :=
  ((line.toList.drop 5).dropWhile isNumeral).head?

theorem mark_of_number {line : String} {number : Int} {rest : List Char}
    (parts : line.toList = "    N".toList ++ ((toString number).toList ++ rest))
    (stop : Stops rest) : mark line = rest.head? := by
  have indented : line.toList.drop 5 = (toString number).toList ++ rest := by
    rw [parts]
    rfl
  rw [mark, indented, List.dropWhile_append_of_pos fun _ => isNumeral_of_mem]
  cases rest with
  | nil => rfl
  | cons c behind => rw [List.dropWhile_cons_of_neg (by simp [stop c rfl])]

theorem mark_vertexLine (vertex : Vertex) :
    mark (vertexLine vertex) ∈ [some '(', some '\x7b', some '['] := by
  rw [mark_of_number (toList_vertexLine vertex) (stops_brackets _ _)]
  cases vertex.kind <;> simp [brackets]

theorem mark_edgeLine (edge : Edge) : mark (edgeLine edge) = some ' ' := by
  rw [mark_of_number (toList_edgeLine edge) (stops_arrow _ _)]
  cases shown? edge.label <;> simp [arrow]

theorem mark_styleLine (vertex : Vertex) : mark (styleLine vertex) = some 't' := by
  rw [mark, toList_styleLine]
  rfl

/-- The lines of a graph can be told from each other: vertices come first and styles last. -/
theorem elements_inj {graph other : Graph} :
    elements graph = elements other ↔
      graph.vertices.map (fun vertex => (vertexLine vertex, styleLine vertex)) =
          other.vertices.map (fun vertex => (vertexLine vertex, styleLine vertex)) ∧
        graph.edges.map edgeLine = other.edges.map edgeLine := by
  let isVertex (line : String) : Bool := mark line ∈ [some '(', some '\x7b', some '[']
  let isEdge (line : String) : Bool := mark line = some ' '
  have vertices (graph : Graph) : ∀ line ∈ graph.vertices.map vertexLine, isVertex line = true :=
    List.forall_mem_map.mpr fun vertex _ => decide_eq_true (mark_vertexLine vertex)
  have edges (graph : Graph) : ∀ line ∈ graph.edges.map edgeLine, mark line = some ' ' :=
    List.forall_mem_map.mpr fun edge _ => mark_edgeLine edge
  have styles (graph : Graph) : ∀ line ∈ graph.vertices.map styleLine, mark line = some 't' :=
    List.forall_mem_map.mpr fun vertex _ => mark_styleLine vertex
  have isEdge_edges (graph : Graph) : ∀ line ∈ graph.edges.map edgeLine, isEdge line = true :=
    fun line member => decide_eq_true (edges graph line member)
  have behindEdges (graph : Graph) :
      ∀ line ∈ (graph.vertices.map styleLine).head?, isEdge line = false := by
    intro line first
    simp [isEdge, styles graph line (List.mem_of_head? first)]
  have behindVertices (graph : Graph) :
      ∀ line ∈ (graph.edges.map edgeLine ++ graph.vertices.map styleLine).head?,
        isVertex line = false := by
    intro line first
    rcases List.mem_append.mp (List.mem_of_head? first) with edge | style
    · simp [isVertex, edges graph line edge]
    · simp [isVertex, styles graph line style]
  rw [elements, elements, List.append_assoc, List.append_assoc,
    append_inj_of_stop (vertices graph) (vertices other) (behindVertices graph)
      (behindVertices other),
    append_inj_of_stop (isEdge_edges graph) (isEdge_edges other) (behindEdges graph)
      (behindEdges other), map_pair_inj, and_assoc,
    and_comm (a := graph.vertices.map styleLine = other.vertices.map styleLine)]

/-- The lines of a chart. -/
def lines (graph : Graph) (title : Option String) : List String :=
  titleLines title ++ "flowchart TD" :: elements graph

theorem titleLines_eq (title : Option String) :
    titleLines title =
      ((shown? title).map fun text => ["---", "title: " ++ text, "---"]).getD [] := by
  unfold titleLines
  split
  next => rfl
  next => rfl
  next text filled => rw [shown?_of_ne filled, Option.map_some, Option.getD_some]

theorem length_lines (graph : Graph) (title : Option String) :
    (lines graph title).length = 1 + 2 * graph.vertices.length + graph.edges.length +
      (if title.any (· ≠ "") then 3 else 0) := by
  have heading : (titleLines title).length = if title.any (· ≠ "") then 3 else 0 := by
    unfold titleLines
    split
    next => rfl
    next => rfl
    next text filled => simp [show text ≠ "" from filled]
  rw [lines, List.length_append, heading, List.length_cons, elements, List.length_append,
    List.length_append, List.length_map, List.length_map, List.length_map]
  omega

theorem lines_inj {graph other : Graph} {title heading : Option String} :
    lines graph title = lines other heading ↔
      shown? title = shown? heading ∧ elements graph = elements other := by
  rw [lines, lines, titleLines_eq, titleLines_eq]
  rcases shown? title with _ | text <;> rcases shown? heading with _ | twin
  · simp
  · simp
  · simp
  · simp [← String.toList_inj]

/-- No line holds a line break. -/
theorem newline_notMem_lines (graph : Graph) (title : Option String) :
    ∀ line ∈ lines graph title, '\n' ∉ line.toList := by
  have number (value : Int) : '\n' ∉ value.repr.toList := fun member =>
    absurd (isNumeral_of_mem member) (by decide)
  have label (text : Option String) : ∀ found ∈ shown? text, '\n' ∉ found.toList := by
    intro found visible
    obtain ⟨_, _, rfl⟩ := Option.map_eq_some_iff.mp visible
    exact newline_notMem_escapeLabel _
  simp only [lines, elements, titleLines_eq, List.mem_append, List.mem_cons, List.mem_map]
  rintro line (heading | rfl | (⟨vertex, _, rfl⟩ | ⟨edge, _, rfl⟩) | ⟨vertex, _, rfl⟩)
  · cases visible : shown? title with
    | none => simp [visible] at heading
    | some text =>
      simp only [visible, Option.map_some, Option.getD_some, List.mem_cons, List.not_mem_nil,
        or_false] at heading
      rcases heading with rfl | rfl | rfl
      · decide
      · simp [label title text visible]
      · decide
  · decide
  · rw [toList_vertexLine]
    cases vertex.kind <;> simp [brackets, number, newline_notMem_escapeLabel]
  · rw [toList_edgeLine]
    cases visible : shown? edge.label with
    | none => simp [arrow, number]
    | some text => simp [arrow, number, label edge.label text visible]
  · rw [toList_styleLine]
    cases vertex.kind <;> simp [colours, number]

/-- A chart falls back into its lines. -/
theorem splitOn_render (graph : Graph) (title : Option String) :
    (render graph title).toList.splitOn '\n' = (lines graph title).map String.toList := by
  have whole : (render graph title).toList =
      ['\n'].intercalate ((lines graph title).map String.toList) :=
    String.toList_intercalate
  rw [whole, List.splitOn_intercalate]
  · exact List.forall_mem_map.mpr (newline_notMem_lines graph title)
  · simp [lines]

end Mermaid

/-- A chart has a line for the direction, two for each vertex, one for each edge and three for a
title that is not empty. Two charts are the same exactly when their graphs have the same vertices
and edges up to what escaping makes of their labels, and the same goes for their titles. -/
theorem render_eq_render_iff (graph other : Graph) (title heading : Option String) :
    ((Mermaid.render graph title).toList.splitOn '\n').length =
        1 + 2 * graph.vertices.length + graph.edges.length +
          (if title.any (· ≠ "") then 3 else 0) ∧
    (Mermaid.render graph title = Mermaid.render other heading ↔
      graph.vertices.map
          (fun vertex => (vertex.id, vertex.kind, Mermaid.escapeLabel vertex.label)) =
          other.vertices.map
            (fun vertex => (vertex.id, vertex.kind, Mermaid.escapeLabel vertex.label)) ∧
        graph.edges.map (fun edge => (edge.source, edge.target, Mermaid.shown? edge.label)) =
          other.edges.map (fun edge => (edge.source, edge.target, Mermaid.shown? edge.label)) ∧
        Mermaid.shown? title = Mermaid.shown? heading) := by
  constructor
  · rw [Mermaid.splitOn_render, List.length_map, Mermaid.length_lines]
  · have parted : Mermaid.render graph title = Mermaid.render other heading ↔
        Mermaid.lines graph title = Mermaid.lines other heading := by
      refine ⟨fun same => ?_, fun same => congrArg _ same⟩
      have lines := congrArg (fun chart : String => chart.toList.splitOn '\n') same
      simp only [Mermaid.splitOn_render] at lines
      exact List.map_injective_iff.mpr (fun _ _ => String.toList_injective) lines
    rw [parted, Mermaid.lines_inj, Mermaid.elements_inj,
      map_eq_map_iff_of_iff (fun _ _ => Mermaid.vertex_lines_inj),
      map_eq_map_iff_of_iff (fun _ _ => Mermaid.edgeLine_inj), and_comm, and_assoc]

end Tangle

/-
This file shows by which labels the vertices of a drawn graph are left. The labels
of a vertex are settled when it is drawn: they are those of its open ends, and an
open end keeps its label when it is led somewhere. So the edges out of a vertex and
its open ends together always bear the same labels. The one exception is the
statement at the end of a loop's body, whose open end becomes the edge back.
-/

import Tangle.Proofs.McCabe
import Tangle.Proofs.Reducible
import Tangle.Proofs.Visited

namespace Tangle

/-! ### Labels that are settled -/

/-- The labels by which a vertex of some kind may be left. -/
inductive Leaves : VertexKind → List (Option String) → Prop where
  | entry : Leaves .entry [none]
  | statement : Leaves .statement [none]
  | loopBody : Leaves .statement [some "continue"]
  | decision {labels : List (Option String)} (group : Fork labels) : Leaves .decision labels
  | exit : Leaves .exit []

namespace Graph

theorem outgoing_attach (graph : Graph) (ends : List OpenEnd) (label : String) (kind : VertexKind)
    (id : Int) : (graph.attach ends label kind).outgoing id =
      graph.outgoing id ++ (ends.filter (·.vertex = id)).map (·.edgeTo graph.next) := by
  rw [outgoing, attach, List.filter_append, List.filter_map]
  rfl

theorem outgoing_addEdge_of_ne (graph : Graph) {source id : Int} (other : source ≠ id)
    (target : Int) (label : Option String) :
    (graph.addEdge source target label).outgoing id = graph.outgoing id := by
  rw [outgoing, addEdge, List.filter_append, List.filter_cons_of_neg (by simpa using other)]
  exact List.append_nil _

theorem outgoing_addEdge_self (graph : Graph) (source target : Int) (label : Option String) :
    (graph.addEdge source target label).outgoing source =
      graph.outgoing source ++ [⟨source, target, label⟩] := by
  rw [outgoing, addEdge, List.filter_append, List.filter_cons_of_pos (by simp)]
  rfl

theorem outgoing_eq_nil {graph : Graph} {id : Int}
    (unused : ∀ edge ∈ graph.edges, edge.source ≠ id) : graph.outgoing id = [] := by
  rw [outgoing, List.filter_eq_nil_iff]
  intro edge member
  simpa using unused edge member

/-- Vertices with the same number are the same. -/
theorem Begun.eq_of_id {graph : Graph} (begun : graph.Begun) {first second : Vertex}
    (firstMember : first ∈ graph.vertices) (secondMember : second ∈ graph.vertices)
    (same : first.id = second.id) : first = second := by
  have distinct : (graph.vertices.map (·.id)).Nodup := by
    rw [begun.numbered]
    exact List.nodup_range.map fun _ _ => Int.ofNat.inj
  exact List.inj_on_of_nodup_map distinct firstMember secondMember same

end Graph

namespace Sketch

/-- The labels by which a vertex is left, or will be. -/
def outlets (sketch : Sketch) (id : Int) : List (Option String) :=
  (sketch.graph.outgoing id).map (·.label) ++ (sketch.ends.filter (·.vertex = id)).map (·.label)

variable {graph : Graph} {closed others : List OpenEnd} {labels : List (Option String)}

theorem filter_endsAt_of_ne {vertex id : Int} (other : vertex ≠ id)
    (labels : List (Option String)) : (endsAt vertex labels).filter (·.vertex = id) = [] := by
  rw [List.filter_eq_nil_iff]
  intro loose member
  obtain ⟨_, _, rfl⟩ := List.mem_map.mp member
  simpa using other

theorem map_label_filter_endsAt (vertex : Int) (labels : List (Option String)) :
    ((endsAt vertex labels).filter (·.vertex = vertex)).map (·.label) = labels := by
  induction labels with
  | nil => rfl
  | cons label rest inductionHypothesis =>
    rw [endsAt, List.map_cons, List.filter_cons_of_pos (by simp), List.map_cons]
    exact congrArg (label :: ·) inductionHypothesis

/-- Leading open ends to a new vertex settles nothing anew at the others. -/
theorem outlets_attach_of_ne {id : Int} (old : graph.next ≠ id) (label : String)
    (kind : VertexKind) :
    outlets ⟨graph.attach closed label kind, endsAt graph.next labels ++ others⟩ id =
      outlets ⟨graph, closed ++ others⟩ id := by
  rw [outlets, outlets, Graph.outgoing_attach, List.filter_append, List.filter_append,
    filter_endsAt_of_ne old, List.nil_append, List.map_append, List.map_append, List.map_map,
    List.append_assoc]
  rfl

theorem outlets_attach_self (connected : Connected ⟨graph, closed ++ others⟩) (label : String)
    (kind : VertexKind) :
    outlets ⟨graph.attach closed label kind, endsAt graph.next labels ++ others⟩ graph.next =
      labels := by
  have unused : ∀ ends ⊆ closed ++ others, ends.filter (·.vertex = graph.next) = [] := by
    intro ends within
    rw [List.filter_eq_nil_iff]
    intro loose member
    simpa using Int.ne_of_lt (connected.opened loose (within member)).1.2
  have fresh : graph.outgoing graph.next = [] :=
    Graph.outgoing_eq_nil fun edge member => Int.ne_of_lt (connected.joined edge member).1.2
  rw [outlets, Graph.outgoing_attach, List.filter_append, unused closed (by simp), fresh,
    unused others (by simp), List.append_nil]
  exact map_label_filter_endsAt graph.next labels

/-! ### Labelled sketches -/

/-- Every vertex is left by the labels of its kind. Two edges between the same vertices are the two
ways past an operator. -/
structure Labelled (sketch : Sketch) : Prop where
  leaves : ∀ vertex ∈ sketch.graph.vertices, ∃ labels,
    Leaves vertex.kind labels ∧ (sketch.outlets vertex.id).Perm labels
  parallel : sketch.graph.edges.Pairwise fun first second =>
    first.source = second.source → first.target = second.target →
      first.label = some "eval" ∧ second.label = some "skip"

theorem Labelled.attach (labelled : Labelled ⟨graph, closed ++ others⟩)
    (connected : Connected ⟨graph, closed ++ others⟩) (begun : graph.Begun) (apart : Apart closed)
    (label : String) {kind : VertexKind} (leaves : Leaves kind labels) :
    Labelled ⟨graph.attach closed label kind, endsAt graph.next labels ++ others⟩ := by
  constructor
  · intro vertex member
    rcases List.mem_append.mp member with old | new
    · have has := (Graph.mem_ids_iff begun.numbered _).mp (List.mem_map_of_mem old)
      rw [outlets_attach_of_ne (Int.ne_of_gt has.2)]
      exact labelled.leaves vertex old
    · rw [List.mem_singleton.mp new, outlets_attach_self connected]
      exact ⟨labels, leaves, .refl _⟩
  · refine List.pairwise_append.mpr ⟨labelled.parallel, ?_, ?_⟩
    · exact List.pairwise_map.mpr (apart.imp fun ways same _ => ways same)
    · intro first old second new _ same
      obtain ⟨loose, _, rfl⟩ := List.mem_map.mp new
      have before := (connected.joined first old).2.1.2
      exact absurd same (Int.ne_of_lt before)

/-- The end of a loop's body has no other way out. -/
theorem Labelled.outlets_body {body : Int} (labelled : Labelled ⟨graph, ⟨body, none⟩ :: others⟩)
    (statement : ∃ label, ⟨body, label, .statement⟩ ∈ graph.vertices) :
    graph.outgoing body = [] ∧ others.filter (·.vertex = body) = [] := by
  obtain ⟨text, member⟩ := statement
  obtain ⟨labels, leaves, same⟩ := labelled.leaves _ member
  rw [outlets, List.filter_cons_of_pos (by simp), List.map_cons] at same
  have alone : labels.length = 1 := by cases leaves <;> rfl
  have count := same.length_eq
  simp only [List.length_append, List.length_map, List.length_cons, alone] at count
  exact ⟨List.length_eq_zero_iff.mp (by omega), List.length_eq_zero_iff.mp (by omega)⟩

theorem Labelled.addEdge {body decision : Int}
    (labelled : Labelled ⟨graph, ⟨body, none⟩ :: others⟩) (begun : graph.Begun)
    (returns : graph.Returns body decision) :
    Labelled ⟨graph.addEdge body decision (some "continue"), others⟩ := by
  obtain ⟨unused, alone⟩ := labelled.outlets_body returns.statement
  constructor
  · intro vertex member
    by_cases here : vertex.id = body
    · obtain ⟨text, statement⟩ := returns.statement
      rw [begun.eq_of_id member statement here, outlets]
      refine ⟨[some "continue"], .loopBody, ?_⟩
      simp only [Graph.outgoing_addEdge_self, unused, alone]
      exact .refl _
    · have kept := labelled.leaves vertex member
      rw [outlets, List.filter_cons_of_neg (by simpa using Ne.symm here)] at kept
      rw [outlets, Graph.outgoing_addEdge_of_ne graph (Ne.symm here)]
      exact kept
  · refine List.pairwise_append.mpr ⟨labelled.parallel, List.pairwise_singleton _ _, ?_⟩
    intro first old second new same
    rw [List.mem_singleton.mp new] at same
    have leaves : first ∈ graph.outgoing body :=
      List.mem_filter.mpr ⟨old, decide_eq_true same⟩
    rw [unused] at leaves
    exact absurd leaves List.not_mem_nil

/-- What is shown of all sketches: the vertices stand in their places, the sketch hangs together and
is labelled. -/
structure Sound (sketch : Sketch) : Prop where
  begun : sketch.graph.Begun
  connected : sketch.Connected
  labelled : sketch.Labelled

theorem Step.sound {before after : Sketch} (move : Step before after) (sound : before.Sound) :
    after.Sound := by
  obtain ⟨begun, connected, labelled⟩ := sound
  refine ⟨move.begun begun, move.connected connected, ?_⟩
  cases move with
  | reorder same =>
    refine ⟨fun vertex member => ?_, labelled.parallel⟩
    obtain ⟨labels, leaves, settled⟩ := labelled.leaves vertex member
    refine ⟨labels, leaves, List.Perm.trans ?_ settled⟩
    exact .append (.refl _) ((same.symm.filter _).map _)
  | @join graph label first more others apart =>
    exact @Labelled.attach graph (first :: more) others [none] labelled connected begun apart label
      .statement .statement
  | @fork graph label start labels group others =>
    exact @Labelled.attach graph [start] others labels labelled connected begun
      (List.pairwise_singleton _ _) label .decision (.decision group)
  | @again graph body decision others returns =>
    have notEntry : decision ≠ 0 :=
      (connected.opened ⟨decision, some "false"⟩ (by simp)).2 (Option.some_ne_none _)
    exact @Labelled.attach _ [⟨decision, some "false"⟩] others [none]
      (labelled.addEdge begun returns) (connected.addEdge notEntry (some "continue"))
      ⟨begun.numbered, begun.entrance⟩ (List.pairwise_singleton _ _) "loop exit" .statement
      .statement

theorem initial_sound : initial.Sound := by
  refine ⟨initial_begun, initial_connected, ?_, .nil⟩
  intro vertex member
  rw [List.mem_singleton.mp member]
  exact ⟨[none], .entry, .refl _⟩

end Sketch

/-! ### Labels of the whole graph -/

theorem exists_sublist_of_forall₂ {α β : Type} {relation : α → β → Prop} {items : List α}
    {values chosen : List β} (each : List.Forall₂ relation items values)
    (among : chosen.Sublist values) :
    ∃ picked, picked.Sublist items ∧ List.Forall₂ relation picked chosen := by
  induction among generalizing items with
  | slnil => exact ⟨[], List.nil_sublist _, .nil⟩
  | cons value _ inductionHypothesis =>
    cases each with
    | @cons item _ _ _ _ behind =>
      obtain ⟨picked, within, related⟩ := inductionHypothesis behind
      exact ⟨picked, within.cons item, related⟩
  | cons_cons value _ inductionHypothesis =>
    cases each with
    | @cons item _ _ _ here behind =>
      obtain ⟨picked, within, related⟩ := inductionHypothesis behind
      exact ⟨item :: picked, within.cons_cons item, .cons here related⟩

namespace Flow

theorem graph_labelled (flow : Flow) : Sketch.Labelled ⟨flow.graph, []⟩ := by
  obtain ⟨graph, last, run, drawn⟩ := flow.graph_run
  obtain ⟨begun, connected, labelled⟩ :=
    run.keeps Sketch.Sound (fun _ _ => Sketch.Step.sound) Sketch.initial_sound
  rw [drawn]
  exact @Sketch.Labelled.attach graph [last] [] [] labelled connected begun
    (List.pairwise_singleton _ _) "EXIT" .exit .exit

/-- The decisions of a graph are the tests of the flow, in order. -/
theorem graph_poses (flow : Flow) :
    List.Forall₂ flow.graph.Poses flow.graph.decisions flow.tests := by
  let start : Graph := ⟨[⟨0, "ENTRY", .entry⟩], []⟩
  obtain ⟨_, drawn, split, poses⟩ := flow.draw_adds start ⟨0, none⟩
  have whole : flow.graph = (flow.draw start ⟨0, none⟩).1.attach [(flow.draw start ⟨0, none⟩).2]
      "EXIT" .exit := rfl
  rw [whole, Graph.decisions_attach_of_ne _ _ _ (by decide), split]
  exact poses.imp fun _ _ => (Graph.within_attach _ _ _ _).poses

end Flow

namespace Fork

variable {labels : List (Option String)}

theorem not_mem_caseLabels {label : String} (other : label.toList.head? ≠ some 'c')
    (number count : Nat) : some label ∉ caseLabels number count := by
  intro member
  obtain ⟨index, _, same⟩ := List.mem_map.mp member
  rw [← Option.some.inj same, String.toList_append] at other
  exact other rfl

theorem eq_of_true (group : Fork labels) (member : some "true" ∈ labels) :
    labels = [some "true", some "false"] := by
  cases group with
  | optional guard =>
    cases guard with
    | condition => rfl
    | handler => exact absurd member (by decide)
  | shortcut => exact absurd member (by decide)
  | cases count => exact absurd member (not_mem_caseLabels (by decide) _ _)
  | bare => exact absurd member (by decide)

theorem eq_of_eval (group : Fork labels) (member : some "eval" ∈ labels) :
    labels = [some "eval", some "skip"] := by
  cases group with
  | optional guard => cases guard <;> exact absurd member (by decide)
  | shortcut => rfl
  | cases count => exact absurd member (not_mem_caseLabels (by decide) _ _)
  | bare => exact absurd member (by decide)

end Fork

theorem Leaves.eq_of_eval {kind : VertexKind} {labels : List (Option String)}
    (leaves : Leaves kind labels) (member : some "eval" ∈ labels) :
    kind = .decision ∧ labels = [some "eval", some "skip"] := by
  cases leaves with
  | decision group => exact ⟨rfl, group.eq_of_eval member⟩
  | entry | statement | loopBody | exit => exact absurd member (by decide)

namespace Graph

/-- The labels of the edges out of a vertex. -/
def labelsFrom (graph : Graph) (id : Int) : List (Option String) :=
  (graph.outgoing id).map (·.label)

/-- The labels by which a decision is left are, in some order, those of a conditional or a loop, of
an operator, of a handler or of the clauses of a switch, or there is one edge without a label. -/
def Forks (graph : Graph) (id : Int) : Prop :=
  (graph.labelsFrom id).Perm [some "true", some "false"] ∨
  (graph.labelsFrom id).Perm [some "eval", some "skip"] ∨
  (graph.labelsFrom id).Perm [some "throw", some "ok"] ∨
  (∃ count > 0, (graph.labelsFrom id).Perm
    ((List.range count).map fun index => some ("case " ++ toString index))) ∨
  graph.labelsFrom id = [none]

theorem forks_of_perm {graph : Graph} {id : Int} {labels : List (Option String)}
    (group : Fork labels) (same : (graph.labelsFrom id).Perm labels) : graph.Forks id := by
  cases group with
  | optional guard =>
    cases guard with
    | condition => exact .inl same
    | handler => exact .inr (.inr (.inl same))
  | shortcut => exact .inr (.inl same)
  | cases count =>
    rw [caseLabels, ← List.range_eq_range'] at same
    exact .inr (.inr (.inr (.inl ⟨count + 1, Nat.succ_pos count, same⟩)))
  | bare => exact .inr (.inr (.inr (.inr (List.perm_singleton.mp same))))

end Graph

namespace Flow

variable (flow : Flow)

/-- A vertex of the graph is left by the labels of its kind. -/
theorem graph_leaves {vertex : Vertex} (member : vertex ∈ flow.graph.vertices) :
    ∃ labels, Leaves vertex.kind labels ∧ (flow.graph.labelsFrom vertex.id).Perm labels := by
  obtain ⟨labels, leaves, same⟩ := flow.graph_labelled.leaves vertex member
  rw [Sketch.outlets, List.filter_nil, List.map_nil, List.append_nil] at same
  exact ⟨labels, leaves, same⟩

theorem graph_forks {vertex : Vertex} (member : vertex ∈ flow.graph.decisions) :
    ∃ labels, Fork labels ∧ (flow.graph.labelsFrom vertex.id).Perm labels := by
  obtain ⟨drawn, kind⟩ := List.mem_filter.mp member
  obtain ⟨labels, leaves, same⟩ := flow.graph_leaves drawn
  rw [of_decide_eq_true kind] at leaves
  cases leaves with
  | decision group => exact ⟨labels, group, same⟩

/-- Entry and statements have one way out. -/
theorem graph_leaves_once {vertex : Vertex} (member : vertex ∈ flow.graph.vertices)
    (kind : vertex.kind = .entry ∨ vertex.kind = .statement) :
    ∃ edge, flow.graph.outgoing vertex.id = [edge] ∧
      (edge.label = none ∨ edge.label = some "continue") := by
  obtain ⟨labels, leaves, same⟩ := flow.graph_leaves member
  have single : ∃ label, labels = [label] ∧ (label = none ∨ label = some "continue") := by
    rcases kind with kind | kind
    all_goals
      rw [kind] at leaves
      cases leaves
    · exact ⟨none, rfl, .inl rfl⟩
    · exact ⟨none, rfl, .inl rfl⟩
    · exact ⟨some "continue", rfl, .inr rfl⟩
  obtain ⟨label, rfl, plain⟩ := single
  obtain ⟨edge, only, rfl⟩ := List.map_eq_singleton_iff.mp (List.perm_singleton.mp same)
  exact ⟨edge, only, plain⟩

/-- Edges between the same vertices are the two ways past an operator. -/
theorem graph_parallel :
    flow.graph.edges.Pairwise fun first second =>
      first.source = second.source → first.target = second.target →
        ∃ vertex ∈ flow.graph.decisions, flow.graph.outgoing vertex.id = [first, second] ∧
          first.label = some "eval" ∧ second.label = some "skip" := by
  rw [List.pairwise_iff_forall_sublist]
  intro first second among source target
  obtain ⟨eval, skip⟩ :=
    List.pairwise_iff_forall_sublist.mp flow.graph_labelled.parallel among source target
  have leave : [first, second].Sublist (flow.graph.outgoing first.source) := by
    have kept := among.filter (·.source = first.source)
    rw [List.filter_cons_of_pos (by simp), List.filter_cons_of_pos (by simpa using source.symm)]
      at kept
    exact kept
  obtain ⟨vertex, drawn, here⟩ :=
    List.mem_map.mp (flow.graph_wellFormed.joined first (among.subset List.mem_cons_self)).1
  obtain ⟨labels, leaves, same⟩ := flow.graph_leaves drawn
  rw [← here] at leave
  have borne : some "eval" ∈ labels :=
    same.subset (List.mem_map.mpr ⟨first, leave.subset List.mem_cons_self, eval⟩)
  obtain ⟨kind, rfl⟩ := leaves.eq_of_eval borne
  refine ⟨vertex, List.mem_filter.mpr ⟨drawn, decide_eq_true kind⟩, ?_, eval, skip⟩
  refine (leave.eq_of_length ?_).symm
  have count := same.length_eq
  rw [Graph.labelsFrom, List.length_map] at count
  exact count.symm

/-- A decision whose first way is taken when a condition holds has one more, for when it does
not. -/
theorem graph_poses_true {vertex : Vertex} (member : vertex ∈ flow.graph.decisions) {text : String}
    (poses : flow.graph.Poses vertex ⟨text, some "true"⟩) :
    (flow.graph.labelsFrom vertex.id).Perm [some "true", some "false"] := by
  obtain ⟨_, edge, drawn, source, label⟩ := poses
  obtain ⟨labels, group, same⟩ := flow.graph_forks member
  have borne : some "true" ∈ labels :=
    same.subset (List.mem_map.mpr ⟨edge, List.mem_filter.mpr ⟨drawn, decide_eq_true source⟩, label⟩)
  rw [← group.eq_of_true borne]
  exact same

/-- Some of the tests, in order, are shown by as many decisions, in order. -/
theorem graph_poses_sublist {tests : List Test} (among : tests.Sublist flow.tests) :
    ∃ vertices, vertices.Sublist flow.graph.decisions ∧ List.Forall₂ (fun vertex test =>
      vertex ∈ flow.graph.decisions ∧ flow.graph.Poses vertex test) vertices tests := by
  obtain ⟨vertices, within, poses⟩ := exists_sublist_of_forall₂ flow.graph_poses among
  refine ⟨vertices, within, (List.forall₂_and_left _ _).mpr ⟨?_, poses⟩⟩
  exact fun _ member => within.subset member

end Flow

/-- Entry and statements of a control flow graph have one way out, which bears no label unless it
ends the body of a loop. The ways out of a decision bear the labels of one group. Conditionals that
follow each other by `else` are each shown by a decision with one edge for either outcome. Only the
two ways past an operator lead from the same vertex to the same vertex. -/
theorem flowGraph_labels (source : Source) (function : Node) (graph : Graph)
    (drawn : source.flowGraph function = .ok graph) :
    (∀ vertex ∈ graph.vertices, vertex.kind = .entry ∨ vertex.kind = .statement →
      ∃ edge, graph.outgoing vertex.id = [edge] ∧
        (edge.label = none ∨ edge.label = some "continue")) ∧
    (∀ vertex ∈ graph.decisions, graph.Forks vertex.id) ∧
    (∀ chain, function.Chained chain → ∃ vertices, vertices.Sublist graph.decisions ∧
      List.Forall₂ (fun vertex node => vertex.label = Outline.conditionText source node ∧
        (graph.labelsFrom vertex.id).Perm [some "true", some "false"]) vertices chain) ∧
    graph.edges.Pairwise fun first second =>
      first.source = second.source → first.target = second.target →
        ∃ vertex ∈ graph.decisions, graph.outgoing vertex.id = [first, second] ∧
          first.label = some "eval" ∧ second.label = some "skip" := by
  obtain ⟨flow, inner, rfl⟩ := Source.exists_flow_of_flowGraph drawn
  refine ⟨fun _ => flow.graph_leaves_once, ?_, ?_, flow.graph_parallel⟩
  · intro vertex member
    obtain ⟨labels, group, same⟩ := flow.graph_forks member
    exact Graph.forks_of_perm group same
  · intro chain chained
    obtain ⟨vertices, among, poses⟩ :=
      flow.graph_poses_sublist (Outline.chained_tests inner chained)
    rw [List.forall₂_map_right_iff] at poses
    refine ⟨vertices, among, poses.imp fun vertex node posed => ⟨posed.2.1, ?_⟩⟩
    exact flow.graph_poses_true posed.1 posed.2

/-- A conditional, with what its `else` holds. -/
def Node.conditional (condition : Node) (alternative : List Node) : Node :=
  .named .ifStatement none
    [condition, .named (.other "else_clause") (some .alternative) alternative]

/-- A conditional whose `else` holds one on a ternary, whose `else` holds one on a conjunction. -/
def elseIfChain : List Node :=
  let third := .conditional (.conjunction (some .condition)) [.named .statementBlock none []]
  let second := .conditional
    (.named .ternaryExpression (some .condition) [.identifier (some .condition)]) [third]
  [.conditional (.identifier (some .condition)) [second], second, third]

def chainedConditionals : Node :=
  .named .functionDeclaration none
    [.named .statementBlock (some .body) [elseIfChain.head (by decide)]]

theorem flowGraph_labels_chainedConditionals :
    ∃ graph, Source.blank.flowGraph chainedConditionals = .ok graph ∧
      graph.decisions.map (·.id) = [1, 3, 7, 9, 11] ∧
      chainedConditionals.Chained elseIfChain ∧
      ∃ vertices, vertices.Sublist graph.decisions ∧
        List.Forall₂ (fun vertex node => vertex.label = Outline.conditionText Source.blank node ∧
          (graph.labelsFrom vertex.id).Perm [some "true", some "false"]) vertices elseIfChain := by
  have chained : chainedConditionals.Chained elseIfChain := by
    refine ⟨?_, by decide, .cons_cons rfl (.cons_cons rfl (.singleton _))⟩
    rintro _ ⟨⟩
    exact .part (.child List.mem_cons_self) List.mem_cons_self
  exact ⟨_, rfl, by decide, chained,
    (flowGraph_labels Source.blank chainedConditionals _ rfl).2.2.1 _ chained⟩

end Tangle

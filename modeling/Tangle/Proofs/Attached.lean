/-
This file says what drawing adds to a graph. Everything is drawn by attaching
vertices to open ends, so that a graph only ever grows: its vertices and edges
stay, in their places, and new ones come behind them. A flow that draws anything
ends at the statement that was drawn last, and the decisions that it draws are
the tests of the flow, in order, each left by an edge that tells its kind.
-/

import Tangle.Flow
import Mathlib.Data.List.Forall2

namespace Tangle

/-! ### Attaching a vertex -/

/-- The edge that an open end becomes when it is led to a vertex. -/
def OpenEnd.edgeTo (loose : OpenEnd) (target : Int) : Edge :=
  ⟨loose.vertex, target, loose.label⟩

namespace Graph

/-- Adds a vertex to which several open ends lead. -/
def attach (graph : Graph) (ends : List OpenEnd) (label : String) (kind : VertexKind) : Graph :=
  ⟨graph.vertices ++ [⟨graph.next, label, kind⟩], graph.edges ++ ends.map (·.edgeTo graph.next)⟩

theorem closeAll_eq (graph : Graph) (ends : List OpenEnd) (target : Int) :
    graph.closeAll ends target =
      ⟨graph.vertices, graph.edges ++ ends.map (·.edgeTo target)⟩ := by
  induction ends generalizing graph with
  | nil => rw [List.map_nil, List.append_nil]; rfl
  | cons loose rest inductionHypothesis =>
    rw [show graph.closeAll (loose :: rest) target =
      (graph.close loose target).closeAll rest target from rfl, inductionHypothesis,
      List.map_cons, List.append_cons]
    rfl

theorem addVertex_closeAll (graph : Graph) (ends : List OpenEnd) (label : String)
    (kind : VertexKind) :
    (graph.addVertex label kind).closeAll ends graph.next = graph.attach ends label kind := by
  rw [closeAll_eq]
  rfl

theorem continueWith_eq_attach (graph : Graph) (loose : OpenEnd) (label : String)
    (kind : VertexKind) : graph.continueWith loose label kind = graph.attach [loose] label kind :=
  rfl

theorem branchTo_eq_attach (graph : Graph) (decision : Int) (edge label : String) :
    graph.branchTo decision edge label =
      graph.attach [⟨decision, some edge⟩] label .statement := rfl

theorem attach_addEdge (graph : Graph) (ends : List OpenEnd) (label : String) (kind : VertexKind)
    (source : Int) (edge : Option String) :
    (graph.attach ends label kind).addEdge source graph.next edge =
      graph.attach (ends ++ [⟨source, edge⟩]) label kind := by
  simp only [attach, addEdge, OpenEnd.edgeTo, List.map_append, List.map_cons, List.map_nil,
    List.append_assoc]

theorem next_attach (graph : Graph) (ends : List OpenEnd) (label : String) (kind : VertexKind) :
    (graph.attach ends label kind).next = graph.next + 1 := by
  simp only [next, attach, List.length_append, List.length_singleton]
  omega

theorem decisions_attach_decision (graph : Graph) (ends : List OpenEnd) (label : String) :
    (graph.attach ends label .decision).decisions =
      graph.decisions ++ [⟨graph.next, label, .decision⟩] := by
  rw [decisions, decisions, ofKind, ofKind, attach, List.filter_append]
  rfl

theorem decisions_attach_of_ne (graph : Graph) (ends : List OpenEnd) (label : String)
    {kind : VertexKind} (other : kind ≠ .decision) :
    (graph.attach ends label kind).decisions = graph.decisions := by
  rw [decisions, decisions, ofKind, ofKind, attach, List.filter_append,
    List.filter_cons_of_neg (by simpa using other)]
  exact List.append_nil _

end Graph

/-! ### Drawing in terms of attached vertices -/

theorem Flow.draw_either (graph : Graph) (start : OpenEnd) (test opening : String) (yes : Flow)
    (otherwise : String) (no : Flow) :
    (Flow.either test opening yes otherwise no).draw graph start =
      let forked := graph.attach [start] test .decision
      let left := yes.draw (forked.attach [⟨graph.next, some "true"⟩] opening .statement)
        ⟨forked.next, none⟩
      let right := no.draw (left.1.attach [⟨graph.next, some "false"⟩] otherwise .statement)
        ⟨left.1.next, none⟩
      (right.1.attach [left.2, right.2] "merge" .statement, ⟨right.1.next, none⟩) := by
  rw [Flow.draw]
  simp only [Graph.addVertex_closeAll]
  rfl

theorem Flow.draw_optional (graph : Graph) (start : OpenEnd) (test : String) (guard : Guard)
    (opening : String) (body : Flow) :
    (Flow.optional test guard opening body).draw graph start =
      let forked := graph.attach [start] test .decision
      let taken := body.draw (forked.attach [⟨graph.next, some guard.taken⟩] opening .statement)
        ⟨forked.next, none⟩
      (taken.1.attach [taken.2, ⟨graph.next, some guard.passed⟩] "merge" .statement,
        ⟨taken.1.next, none⟩) := by
  rw [Flow.draw]
  simp only [Graph.addVertex_closeAll]
  rfl

theorem Flow.draw_chain (graph : Graph) (start : OpenEnd) (test opening : String)
    (yes next : Flow) :
    (Flow.chain test opening yes next).draw graph start =
      let forked := graph.attach [start] test .decision
      let left := yes.draw (forked.attach [⟨graph.next, some "true"⟩] opening .statement)
        ⟨forked.next, none⟩
      let right := next.draw left.1 ⟨graph.next, some "false"⟩
      (right.1.attach [left.2, right.2] "merge" .statement, ⟨right.1.next, none⟩) := by
  rw [Flow.draw]
  simp only [Graph.addVertex_closeAll]
  rfl

theorem Flow.draw_loop (graph : Graph) (start : OpenEnd) (test : String) (body : Flow) :
    (Flow.loop test body).draw graph start =
      let forked := graph.attach [start] test .decision
      let inside := body.draw (forked.attach [⟨graph.next, some "true"⟩] "loop body" .statement)
        ⟨forked.next, none⟩
      ((inside.1.addEdge inside.2.vertex graph.next (some "continue")).attach
        [⟨graph.next, some "false"⟩] "loop exit" .statement, ⟨inside.1.next, none⟩) := by
  rw [Flow.draw]
  rfl

theorem Flow.draw_choose (graph : Graph) (start : OpenEnd) (test : String) (clauses : Clauses) :
    (Flow.choose test clauses).draw graph start =
      let drawn := clauses.draw (graph.attach [start] test .decision) graph.next 0
      (drawn.1.attach (if drawn.2.isEmpty then [⟨graph.next, none⟩] else drawn.2) "switch merge"
        .statement, ⟨drawn.1.next, none⟩) := by
  rw [Flow.draw]
  simp only [Graph.addVertex_closeAll]
  rfl

theorem Flow.draw_shortcut (graph : Graph) (start : OpenEnd) (sign : String) :
    (Flow.shortcut sign).draw graph start =
      let forked := graph.attach [start] (sign ++ " short-circuit") .decision
      (forked.attach [⟨graph.next, some "eval"⟩, ⟨graph.next, some "skip"⟩] "continue" .statement,
        ⟨forked.next, none⟩) := by
  rw [Flow.draw]
  simp only [Graph.branchTo_eq_attach, Graph.attach_addEdge]
  rfl

theorem Clauses.draw_cons (graph : Graph) (decision : Int) (number : Nat) (text : String)
    (body : Flow) (rest : Clauses) :
    (Clauses.cons text body rest).draw graph decision number =
      let inside := body.draw (graph.attach [⟨decision, some ("case " ++ toString number)⟩] text
        .statement) ⟨graph.next, none⟩
      let others := rest.draw inside.1 decision (number + 1)
      (others.1, inside.2 :: others.2) := by
  rw [Clauses.draw]
  rfl

/-! ### Growing -/

namespace Graph

/-- The larger graph is the smaller one, drawn on. -/
structure Within (graph larger : Graph) : Prop where
  vertices : graph.vertices <+: larger.vertices
  edges : graph.edges <+: larger.edges

variable {graph larger largest : Graph}

theorem Within.refl (graph : Graph) : graph.Within graph :=
  ⟨List.prefix_rfl, List.prefix_rfl⟩

theorem Within.trans (first : graph.Within larger) (second : larger.Within largest) :
    graph.Within largest :=
  ⟨first.vertices.trans second.vertices, first.edges.trans second.edges⟩

theorem Within.next_le (within : graph.Within larger) : graph.next ≤ larger.next :=
  Int.ofNat_le.mpr within.vertices.length_le

theorem within_attach (graph : Graph) (ends : List OpenEnd) (label : String) (kind : VertexKind) :
    graph.Within (graph.attach ends label kind) :=
  ⟨List.prefix_append _ _, List.prefix_append _ _⟩

theorem within_addEdge (graph : Graph) (source target : Int) (label : Option String) :
    graph.Within (graph.addEdge source target label) :=
  ⟨List.prefix_rfl, List.prefix_append _ _⟩

end Graph

/-! ### Tests -/

/-- The text of a decision, with the label of the edge that is drawn out of it first. -/
structure Test where
  text : String
  first : Option String

mutual

/-- The decisions of a flow in the order in which they are drawn. -/
def Flow.tests : Flow → List Test
  | .skip => []
  | .seq first second => first.tests ++ second.tests
  | .step _ => []
  | .either test _ yes _ no => ⟨test, some "true"⟩ :: (yes.tests ++ no.tests)
  | .optional test guard _ body => ⟨test, some guard.taken⟩ :: body.tests
  | .chain test _ yes next => ⟨test, some "true"⟩ :: (yes.tests ++ next.tests)
  | .loop test body => ⟨test, some "true"⟩ :: body.tests
  | .choose test .nil => [⟨test, none⟩]
  | .choose test (.cons _ body rest) => ⟨test, some "case 0"⟩ :: (body.tests ++ rest.tests)
  | .shortcut sign => [⟨sign ++ " short-circuit", some "eval"⟩]

def Clauses.tests : Clauses → List Test
  | .nil => []
  | .cons _ body rest => body.tests ++ rest.tests

end

namespace Graph

/-- A vertex shows a test. -/
def Poses (graph : Graph) (vertex : Vertex) (test : Test) : Prop :=
  vertex.label = test.text ∧ ∃ edge ∈ graph.edges, edge.source = vertex.id ∧ edge.label = test.first

/-- The larger graph is the smaller one, drawn on, with decisions for the given tests. -/
structure Adds (graph larger : Graph) (tests : List Test) : Prop where
  within : graph.Within larger
  decisions : ∃ drawn, larger.decisions = graph.decisions ++ drawn ∧
    List.Forall₂ larger.Poses drawn tests

variable {graph larger largest : Graph} {tests more : List Test}

theorem Within.poses (within : graph.Within larger) {vertex : Vertex} {test : Test}
    (poses : graph.Poses vertex test) : larger.Poses vertex test := by
  obtain ⟨text, edge, member, leaves⟩ := poses
  exact ⟨text, edge, within.edges.subset member, leaves⟩

theorem Adds.refl (graph : Graph) : graph.Adds graph [] :=
  ⟨.refl graph, [], (List.append_nil _).symm, .nil⟩

theorem Adds.trans (first : graph.Adds larger tests) (second : larger.Adds largest more) :
    graph.Adds largest (tests ++ more) := by
  obtain ⟨before, drawn, split, pose⟩ := first
  obtain ⟨behind, others, parted, posed⟩ := second
  refine ⟨before.trans behind, drawn ++ others, ?_, ?_⟩
  · rw [parted, split, List.append_assoc]
  · exact List.rel_append (pose.imp fun _ _ => behind.poses) posed

theorem Adds.nothing (first : graph.Adds larger tests) (second : larger.Adds largest []) :
    graph.Adds largest tests := by
  rw [← List.append_nil tests]
  exact first.trans second

/-- Decisions are new vertices. -/
theorem Adds.next_lt {test : Test} (adds : graph.Adds larger (test :: tests)) :
    graph.next < larger.next := by
  obtain ⟨within, drawn, split, poses⟩ := adds
  refine Int.lt_iff_le_and_ne.mpr ⟨within.next_le, fun same => ?_⟩
  have all : graph.vertices = larger.vertices :=
    within.vertices.eq_of_length (Int.ofNat_inj.mp same)
  have none : drawn = [] := by
    rw [Graph.decisions, Graph.decisions, ofKind, ofKind, ← all] at split
    exact List.self_eq_append_right.mp split
  rw [none] at poses
  cases poses

theorem adds_statement (graph : Graph) (ends : List OpenEnd) (label : String) :
    graph.Adds (graph.attach ends label .statement) [] := by
  refine ⟨graph.within_attach ends label .statement, [], ?_, .nil⟩
  rw [decisions_attach_of_ne _ _ _ (by decide), List.append_nil]

theorem adds_edge (graph : Graph) (source target : Int) (label : Option String) :
    graph.Adds (graph.addEdge source target label) [] :=
  ⟨graph.within_addEdge source target label, [], (List.append_nil _).symm, .nil⟩

/-- A decision is drawn with its first edge. -/
theorem adds_decision (graph : Graph) (start : OpenEnd) (text : String) (first : Option String)
    (rest : List OpenEnd) (opening : String) :
    graph.Adds ((graph.attach [start] text .decision).attach (⟨graph.next, first⟩ :: rest) opening
      .statement) [⟨text, first⟩] := by
  refine ⟨(graph.within_attach _ _ _).trans (within_attach _ _ _ _),
    [⟨graph.next, text, .decision⟩], ?_, .cons ⟨rfl, ?_⟩ .nil⟩
  · rw [decisions_attach_of_ne _ _ _ (by decide), decisions_attach_decision]
  · exact ⟨_, List.mem_append_right _ List.mem_cons_self, rfl, rfl⟩

end Graph

mutual

/-- Drawing a flow adds its tests. -/
theorem Flow.draw_adds (flow : Flow) (graph : Graph) (start : OpenEnd) :
    graph.Adds (flow.draw graph start).1 flow.tests := by
  cases flow with
  | skip => exact .refl graph
  | seq first second => exact (first.draw_adds graph start).trans (second.draw_adds _ _)
  | step text => exact graph.adds_statement [start] text
  | either test opening yes otherwise no =>
    rw [Flow.draw_either, Flow.tests]
    refine (graph.adds_decision start test (some "true") [] opening).trans ?_
    exact (yes.draw_adds _ _).trans
      (((Graph.adds_statement _ _ _).trans (no.draw_adds _ _)).nothing (Graph.adds_statement _ _ _))
  | optional test guard opening body =>
    rw [Flow.draw_optional, Flow.tests]
    refine (graph.adds_decision start test (some guard.taken) [] opening).trans ?_
    exact (body.draw_adds _ _).nothing (Graph.adds_statement _ _ _)
  | chain test opening yes next =>
    rw [Flow.draw_chain, Flow.tests]
    refine (graph.adds_decision start test (some "true") [] opening).trans ?_
    exact (yes.draw_adds _ _).trans ((next.draw_adds _ _).nothing (Graph.adds_statement _ _ _))
  | loop test body =>
    rw [Flow.draw_loop, Flow.tests]
    refine (graph.adds_decision start test (some "true") [] "loop body").trans ?_
    exact (body.draw_adds _ _).nothing
      ((Graph.adds_edge _ _ _ _).nothing (Graph.adds_statement _ _ _))
  | choose test clauses =>
    rw [Flow.draw_choose]
    cases clauses with
    | nil => exact graph.adds_decision start test none [] "switch merge"
    | cons text body rest =>
      rw [Flow.tests]
      refine (graph.adds_decision start test (some "case 0") [] text).trans ?_
      exact (body.draw_adds _ _).trans
        ((rest.draw_adds _ _ _).nothing (Graph.adds_statement _ _ _))
  | shortcut sign =>
    rw [Flow.draw_shortcut]
    exact graph.adds_decision start _ (some "eval") _ "continue"

theorem Clauses.draw_adds (clauses : Clauses) (graph : Graph) (decision : Int) (number : Nat) :
    graph.Adds (clauses.draw graph decision number).1 clauses.tests := by
  cases clauses with
  | nil => exact .refl graph
  | cons text body rest =>
    rw [Clauses.draw_cons, Clauses.tests]
    exact ((graph.adds_statement _ text).trans (body.draw_adds _ _)).trans (rest.draw_adds _ _ _)

end

/-! ### Where drawing ends -/

namespace Graph

/-- The open end is that of the vertex drawn last, which is a statement. -/
def Newest (graph : Graph) (loose : OpenEnd) : Prop :=
  ∃ before ends label, graph = attach before ends label .statement ∧ loose = ⟨before.next, none⟩

variable {graph : Graph} {loose : OpenEnd}

theorem newest_attach (graph : Graph) (ends : List OpenEnd) (label : String) :
    (graph.attach ends label .statement).Newest ⟨graph.next, none⟩ :=
  ⟨graph, ends, label, rfl, rfl⟩

theorem Newest.unlabelled (newest : graph.Newest loose) : loose = ⟨loose.vertex, none⟩ := by
  obtain ⟨before, ends, label, rfl, rfl⟩ := newest
  rfl

theorem Newest.vertex (newest : graph.Newest loose) : loose.vertex + 1 = graph.next := by
  obtain ⟨before, ends, label, rfl, rfl⟩ := newest
  rw [next_attach]

theorem Newest.statement (newest : graph.Newest loose) :
    ∃ label, ⟨loose.vertex, label, .statement⟩ ∈ graph.vertices := by
  obtain ⟨before, ends, label, rfl, rfl⟩ := newest
  exact ⟨label, List.mem_append_right _ List.mem_cons_self⟩

end Graph

/-- A flow draws nothing, or it ends at a new statement. -/
theorem Flow.draw_cases (flow : Flow) (graph : Graph) (start : OpenEnd) :
    flow.draw graph start = (graph, start) ∨
      (graph.next < (flow.draw graph start).1.next ∧
        (flow.draw graph start).1.Newest (flow.draw graph start).2) := by
  have adds := flow.draw_adds graph start
  cases flow with
  | skip => exact .inl rfl
  | seq first second =>
    rw [Flow.draw]
    rcases first.draw_cases graph start with same | ⟨grows, newest⟩
    · rw [same]
      exact second.draw_cases graph start
    · rcases second.draw_cases (first.draw graph start).1 (first.draw graph start).2 with
        same | ⟨more, latest⟩
      · simp only [same]
        exact .inr ⟨grows, newest⟩
      · exact .inr ⟨Int.lt_trans grows more, latest⟩
  | step text =>
    refine .inr ⟨?_, graph.newest_attach [start] text⟩
    rw [Flow.draw, Graph.continueWith_eq_attach, Graph.next_attach]
    exact Int.lt_succ _
  | either test opening yes otherwise no =>
    refine .inr ⟨adds.next_lt, ?_⟩
    rw [Flow.draw_either]
    exact Graph.newest_attach _ _ _
  | optional test guard opening body =>
    refine .inr ⟨adds.next_lt, ?_⟩
    rw [Flow.draw_optional]
    exact Graph.newest_attach _ _ _
  | chain test opening yes next =>
    refine .inr ⟨adds.next_lt, ?_⟩
    rw [Flow.draw_chain]
    exact Graph.newest_attach _ _ _
  | loop test body =>
    refine .inr ⟨adds.next_lt, ?_⟩
    rw [Flow.draw_loop]
    exact Graph.newest_attach _ _ _
  | choose test clauses =>
    refine .inr ⟨?_, ?_⟩
    · cases clauses <;> exact adds.next_lt
    · rw [Flow.draw_choose]
      exact Graph.newest_attach _ _ _
  | shortcut sign =>
    refine .inr ⟨adds.next_lt, ?_⟩
    rw [Flow.draw_shortcut]
    exact Graph.newest_attach _ _ _

end Tangle

/-
This file takes drawing apart into steps. A sketch is a graph together with the
ends that are still open, and an open end is an edge of which only the target is
missing. Every flow, however it is nested, is drawn by four moves: the open ends
are put in another order, some of them are led to a new statement, one is led to
a new decision that opens a group of its own, or a loop is closed.

What holds of all graphs that are drawn can therefore be shown one move at a time.
-/

import Tangle.Proofs.Attached
import Mathlib.Logic.Relation

namespace Tangle

/-! ### The moves -/

/-- A graph that is being drawn, with the ends that are still open. -/
structure Sketch where
  graph : Graph
  ends : List OpenEnd

/-- The labels of the clauses of a decision, from the one with the given number on. -/
def caseLabels (number count : Nat) : List (Option String) :=
  (List.range' number count).map fun index => some ("case " ++ toString index)

/-- The groups of labels that the edges out of a decision bear. -/
inductive Fork : List (Option String) → Prop where
  | optional (guard : Guard) : Fork [some guard.taken, some guard.passed]
  | shortcut : Fork [some "eval", some "skip"]
  | cases (count : Nat) : Fork (caseLabels 0 (count + 1))
  /-- A decision without clauses is passed. -/
  | bare : Fork [none]

/-- The open ends of one vertex, one for each label. -/
def endsAt (vertex : Int) (labels : List (Option String)) : List OpenEnd :=
  labels.map (⟨vertex, ·⟩)

/-- No two open ends are at one vertex, save the two ways past an operator. -/
def Apart (ends : List OpenEnd) : Prop :=
  ends.Pairwise fun first second =>
    first.vertex = second.vertex → first.label = some "eval" ∧ second.label = some "skip"

/-- A statement may be led back to a decision when everything drawn behind the decision stems from
it, and nothing has been led back to it before. -/
structure Graph.Returns (graph : Graph) (body decision : Int) : Prop where
  statement : ∃ label, ⟨body, label, .statement⟩ ∈ graph.vertices
  decides : ∃ label, ⟨decision, label, .decision⟩ ∈ graph.vertices
  later : decision < body
  first : ∀ edge ∈ graph.edges, edge.target = decision → edge.source < decision
  through : ∀ edge ∈ graph.edges, decision < edge.target → decision ≤ edge.source

namespace Sketch

/-- One move of drawing. -/
inductive Step : Sketch → Sketch → Prop where
  /-- The order of the open ends does not matter. -/
  | reorder {graph : Graph} {ends others : List OpenEnd} (same : ends.Perm others) :
    Step ⟨graph, ends⟩ ⟨graph, others⟩
  /-- Some open ends are led to a new statement. -/
  | join {graph : Graph} (label : String) (first : OpenEnd) (more others : List OpenEnd)
    (apart : Apart (first :: more)) :
    Step ⟨graph, (first :: more) ++ others⟩
      ⟨graph.attach (first :: more) label .statement, ⟨graph.next, none⟩ :: others⟩
  /-- An open end is led to a new decision. -/
  | fork {graph : Graph} (label : String) (start : OpenEnd) {labels : List (Option String)}
    (group : Fork labels) (others : List OpenEnd) :
    Step ⟨graph, start :: others⟩
      ⟨graph.attach [start] label .decision, endsAt graph.next labels ++ others⟩
  /-- The body of a loop is led back to its decision, which is then left. -/
  | again {graph : Graph} (body decision : Int) (others : List OpenEnd)
    (returns : graph.Returns body decision) :
    Step ⟨graph, ⟨body, none⟩ :: ⟨decision, some "false"⟩ :: others⟩
      ⟨(graph.addEdge body decision (some "continue")).attach [⟨decision, some "false"⟩]
        "loop exit" .statement, ⟨graph.next, none⟩ :: others⟩

/-- Any number of moves. -/
def Run : Sketch → Sketch → Prop :=
  Relation.ReflTransGen Step

/-- What every move keeps is kept by drawing. -/
theorem Run.keeps (property : Sketch → Prop)
    (step : ∀ before after, Step before after → property before → property after)
    {before after : Sketch} (run : Run before after) (holds : property before) :
    property after := by
  induction run with
  | refl => exact holds
  | tail _ move inductionHypothesis => exact step _ _ move inductionHypothesis

/-- The sketch that every drawing begins with: an entry that is open. -/
def initial : Sketch :=
  ⟨⟨[⟨0, "ENTRY", .entry⟩], []⟩, [⟨0, none⟩]⟩

/-! ### Sketches without stray ends -/

/-- All edges lead to vertices that are drawn, and all open ends are at such vertices. -/
structure Bounded (sketch : Sketch) : Prop where
  edges : ∀ edge ∈ sketch.graph.edges, edge.target < sketch.graph.next
  ends : ∀ loose ∈ sketch.ends, loose.vertex < sketch.graph.next

/-- Everything drawn behind a vertex stems from it, and so do the open ends. -/
structure Behind (vertex : Int) (sketch : Sketch) : Prop where
  drawn : vertex < sketch.graph.next
  first : ∀ edge ∈ sketch.graph.edges, edge.target = vertex → edge.source < vertex
  through : ∀ edge ∈ sketch.graph.edges, vertex < edge.target → vertex ≤ edge.source
  ends : ∀ loose ∈ sketch.ends, vertex < loose.vertex

variable {graph : Graph} {closed others : List OpenEnd} {labels : List (Option String)}

theorem Bounded.attach (bounded : Bounded ⟨graph, closed ++ others⟩) (label : String)
    (kind : VertexKind) :
    Bounded ⟨graph.attach closed label kind, endsAt graph.next labels ++ others⟩ := by
  constructor
  · intro edge member
    rw [Graph.next_attach]
    rcases List.mem_append.mp member with old | new
    · exact Int.lt_trans (bounded.edges edge old) (Int.lt_succ _)
    · obtain ⟨loose, _, rfl⟩ := List.mem_map.mp new
      exact Int.lt_succ _
  · intro loose member
    rw [Graph.next_attach]
    rcases List.mem_append.mp member with new | old
    · obtain ⟨_, _, rfl⟩ := List.mem_map.mp new
      exact Int.lt_succ _
    · exact Int.lt_trans (bounded.ends loose (List.mem_append_right _ old)) (Int.lt_succ _)

theorem Step.bounded {before after : Sketch} (move : Step before after)
    (bounded : before.Bounded) : after.Bounded := by
  cases move with
  | reorder same =>
    exact ⟨bounded.edges, fun loose member => bounded.ends loose (same.mem_iff.mpr member)⟩
  | @join graph label first more others _ =>
    exact @Bounded.attach graph (first :: more) others [none] bounded label .statement
  | @fork graph label start labels _ others =>
    exact @Bounded.attach graph [start] others labels bounded label .decision
  | @again graph body decision others _ =>
    have relinked : Bounded ⟨graph.addEdge body decision (some "continue"),
        [⟨decision, some "false"⟩] ++ others⟩ := by
      refine ⟨?_, fun loose member => bounded.ends loose (List.mem_cons_of_mem _ member)⟩
      intro edge member
      rcases List.mem_append.mp member with old | new
      · exact bounded.edges edge old
      · rw [List.mem_singleton.mp new]
        exact bounded.ends ⟨decision, some "false"⟩ (by simp)
    exact @Bounded.attach _ _ others [none] relinked "loop exit" .statement

theorem Behind.attach {vertex : Int} (behind : Behind vertex ⟨graph, closed ++ others⟩)
    (label : String) (kind : VertexKind) :
    Behind vertex ⟨graph.attach closed label kind, endsAt graph.next labels ++ others⟩ := by
  have drawn : vertex < graph.next := behind.drawn
  refine ⟨?_, ?_, ?_, ?_⟩
  · rw [Graph.next_attach]
    exact Int.lt_trans drawn (Int.lt_succ _)
  · intro edge member same
    rcases List.mem_append.mp member with old | new
    · exact behind.first edge old same
    · obtain ⟨loose, _, rfl⟩ := List.mem_map.mp new
      exact absurd same (Int.ne_of_gt drawn)
  · intro edge member later
    rcases List.mem_append.mp member with old | new
    · exact behind.through edge old later
    · obtain ⟨loose, shut, rfl⟩ := List.mem_map.mp new
      exact Int.le_of_lt (behind.ends loose (List.mem_append_left _ shut))
  · intro loose member
    rcases List.mem_append.mp member with new | old
    · obtain ⟨_, _, rfl⟩ := List.mem_map.mp new
      exact drawn
    · exact behind.ends loose (List.mem_append_right _ old)

theorem Step.behind {vertex : Int} {before after : Sketch} (move : Step before after)
    (behind : before.Behind vertex) : after.Behind vertex := by
  cases move with
  | reorder same =>
    obtain ⟨drawn, first, through, ends⟩ := behind
    exact ⟨drawn, first, through, fun loose member => ends loose (same.mem_iff.mpr member)⟩
  | @join graph label first more others _ =>
    exact @Behind.attach graph (first :: more) others [none] vertex behind label .statement
  | @fork graph label start labels _ others =>
    exact @Behind.attach graph [start] others labels vertex behind label .decision
  | @again graph body decision others _ =>
    have back := behind.ends ⟨body, none⟩ (by simp)
    have target := behind.ends ⟨decision, some "false"⟩ (by simp)
    have relinked : Behind vertex ⟨graph.addEdge body decision (some "continue"),
        [⟨decision, some "false"⟩] ++ others⟩ := by
      refine ⟨behind.drawn, ?_, ?_, ?_⟩
      · intro edge member same
        rcases List.mem_append.mp member with old | new
        · exact behind.first edge old same
        · rw [List.mem_singleton.mp new] at same
          exact absurd same (Int.ne_of_gt target)
      · intro edge member later
        rcases List.mem_append.mp member with old | new
        · exact behind.through edge old later
        · rw [List.mem_singleton.mp new]
          exact Int.le_of_lt back
      · exact fun loose member => behind.ends loose (List.mem_cons_of_mem _ member)
    exact @Behind.attach _ _ others [none] vertex relinked "loop exit" .statement

theorem Bounded.branch {start : OpenEnd} (bounded : Bounded ⟨graph, start :: others⟩)
    (test opening : String) (label : Option String) :
    let forked := graph.attach [start] test .decision
    Bounded ⟨forked.attach [⟨graph.next, label⟩] opening .statement, [⟨forked.next, none⟩]⟩ := by
  have forked := @Bounded.attach graph [start] others [label] bounded test .decision
  have opened := @Bounded.attach _ [⟨graph.next, label⟩] others [none] forked opening .statement
  refine ⟨opened.edges, fun loose member => opened.ends loose ?_⟩
  rw [List.mem_singleton.mp member]
  exact List.mem_cons_self

/-- The first branch out of a new decision stems from it. -/
theorem Bounded.behind {start : OpenEnd} (bounded : Bounded ⟨graph, start :: others⟩)
    (test opening : String) (label : Option String) :
    let forked := graph.attach [start] test .decision
    Behind graph.next ⟨forked.attach [⟨graph.next, label⟩] opening .statement,
      [⟨forked.next, none⟩]⟩ := by
  intro forked
  have begins : start.vertex < graph.next := bounded.ends start List.mem_cons_self
  have fresh : forked.next = graph.next + 1 := Graph.next_attach _ _ _ _
  have cases : ∀ edge ∈ (forked.attach [⟨graph.next, label⟩] opening .statement).edges,
      edge.target < graph.next ∨ (edge.target = graph.next ∧ edge.source < graph.next) ∨
        (graph.next < edge.target ∧ edge.source = graph.next) := by
    intro edge member
    simp only [forked, Graph.attach, List.map_cons, List.map_nil, List.mem_append,
      List.mem_singleton] at member
    rcases member with (old | rfl) | rfl
    · exact .inl (bounded.edges edge old)
    · exact .inr (.inl ⟨rfl, begins⟩)
    · exact .inr (.inr ⟨fresh ▸ Int.lt_succ _, rfl⟩)
  refine ⟨?_, ?_, ?_, ?_⟩
  · rw [Graph.next_attach]
    omega
  · intro edge member same
    rcases cases edge member with earlier | ⟨_, source⟩ | ⟨later, _⟩ <;> omega
  · intro edge member later
    rcases cases edge member with earlier | ⟨same, _⟩ | ⟨_, source⟩ <;> omega
  · intro loose member
    rw [List.mem_singleton.mp member]
    exact fresh ▸ Int.lt_succ _

/-! ### Drawing by moves -/

/-- Where a sketch has no stray ends, moves lead to the other sketch. -/
def Draws (before after : Sketch) : Prop :=
  before.Bounded → Run before after

theorem Draws.refl (sketch : Sketch) : Draws sketch sketch :=
  fun _ => .refl

theorem Draws.single {before after : Sketch} (move : Step before after) : Draws before after :=
  fun _ => .single move

theorem Draws.trans {before between after : Sketch} (first : Draws before between)
    (second : Draws between after) : Draws before after := by
  intro bounded
  have run := first bounded
  exact run.trans (second (run.keeps Bounded (fun _ _ => Step.bounded) bounded))

/-- Leads one open end to a new statement. -/
theorem Draws.branch (graph : Graph) (label : String) (start : OpenEnd) (others : List OpenEnd) :
    Draws ⟨graph, start :: others⟩
      ⟨graph.attach [start] label .statement, ⟨graph.next, none⟩ :: others⟩ :=
  .single (.join label start [] others (List.pairwise_singleton _ _))

/-- Turns to the second open end. -/
theorem Draws.swap (graph : Graph) (first second : OpenEnd) (others : List OpenEnd) :
    Draws ⟨graph, first :: second :: others⟩ ⟨graph, second :: first :: others⟩ :=
  .single (.reorder (.swap second first others))

end Sketch

/-- The number of clauses. -/
def Clauses.count : Clauses → Nat
  | .nil => 0
  | .cons _ _ rest => rest.count + 1

theorem endsAt_caseLabels_succ (decision : Int) (number count : Nat) :
    endsAt decision (caseLabels number (count + 1)) =
      ⟨decision, some ("case " ++ toString number)⟩ ::
        endsAt decision (caseLabels (number + 1) count) := by
  rw [caseLabels, List.range'_succ]
  rfl

/-! ### Ends that meet -/

/-- A branch ends at the statement drawn last. -/
theorem Flow.draw_branch (flow : Flow) (graph : Graph) (ends : List OpenEnd) (label : String) :
    let drawn := flow.draw (graph.attach ends label .statement) ⟨graph.next, none⟩
    drawn.1.Newest drawn.2 ∧ graph.next ≤ drawn.2.vertex := by
  rcases flow.draw_cases (graph.attach ends label .statement) ⟨graph.next, none⟩ with
    same | ⟨grows, newest⟩
  · rw [same]
    exact ⟨graph.newest_attach ends label, Int.le_refl _⟩
  · refine ⟨newest, ?_⟩
    have last := newest.vertex
    rw [Graph.next_attach] at grows
    omega

theorem Apart.pair {first second : OpenEnd} (other : first.vertex ≠ second.vertex) :
    Apart [first, second] :=
  List.pairwise_pair.mpr fun same => absurd same other

/-- Two branches end at different vertices. -/
theorem Flow.draw_branches_apart (yes no : Flow) (graph : Graph) (taken passed : List OpenEnd)
    (opening otherwise : String) :
    let left := yes.draw (graph.attach taken opening .statement) ⟨graph.next, none⟩
    let right := no.draw (left.1.attach passed otherwise .statement) ⟨left.1.next, none⟩
    Apart [left.2, right.2] := by
  intro left right
  have last : left.2.vertex + 1 = left.1.next := (yes.draw_branch graph taken opening).1.vertex
  have later : left.1.next ≤ right.2.vertex := (no.draw_branch left.1 passed otherwise).2
  refine .pair ?_
  omega

/-- A branch and what hangs off its decision end at different vertices. -/
theorem Flow.draw_chain_apart (yes next : Flow) (graph : Graph) (taken : List OpenEnd)
    (opening : String) (passed : OpenEnd) (earlier : passed.vertex < graph.next) :
    let left := yes.draw (graph.attach taken opening .statement) ⟨graph.next, none⟩
    Apart [left.2, (next.draw left.1 passed).2] := by
  intro left
  obtain ⟨newest, begins⟩ := yes.draw_branch graph taken opening
  have last : left.2.vertex + 1 = left.1.next := newest.vertex
  refine .pair ?_
  rcases next.draw_cases left.1 passed with same | ⟨grows, newer⟩
  · rw [same]
    exact Int.ne_of_gt (Int.lt_of_lt_of_le earlier begins)
  · have latest := newer.vertex
    omega

/-- The body of a loop may be led back to its decision. -/
theorem Flow.draw_body_returns (body : Flow) {graph : Graph} {start : OpenEnd}
    {others : List OpenEnd} (bounded : Sketch.Bounded ⟨graph, start :: others⟩) (test : String) :
    let forked := graph.attach [start] test .decision
    let opened := forked.attach [⟨graph.next, some "true"⟩] "loop body" .statement
    let inside := body.draw opened ⟨forked.next, none⟩
    Sketch.Draws ⟨opened, [⟨forked.next, none⟩]⟩ ⟨inside.1, [inside.2]⟩ →
      inside.1.Returns inside.2.vertex graph.next := by
  intro forked opened inside draws
  have run := draws (bounded.branch test "loop body" (some "true"))
  have behind := run.keeps (Sketch.Behind graph.next) (fun _ _ => Sketch.Step.behind)
    (bounded.behind test "loop body" (some "true"))
  have newest := (body.draw_branch forked [⟨graph.next, some "true"⟩] "loop body").1
  have within : forked.Within inside.1 :=
    (forked.within_attach _ _ _).trans (body.draw_adds opened ⟨forked.next, none⟩).within
  refine ⟨newest.statement, ⟨test, ?_⟩, ?_, behind.first, behind.through⟩
  · exact within.vertices.subset (List.mem_append_right _ List.mem_cons_self)
  · exact behind.ends inside.2 (List.mem_singleton_self _)

/-- The clauses of a decision end at different vertices. -/
theorem Clauses.draw_apart (clauses : Clauses) (graph : Graph) (decision : Int) (number : Nat) :
    Apart (clauses.draw graph decision number).2 ∧
      ∀ loose ∈ (clauses.draw graph decision number).2, graph.next ≤ loose.vertex := by
  cases clauses with
  | nil => exact ⟨.nil, fun _ member => absurd member List.not_mem_nil⟩
  | cons text body rest =>
    obtain ⟨newest, begins⟩ :=
      body.draw_branch graph [⟨decision, some ("case " ++ toString number)⟩] text
    have last := newest.vertex
    rw [Clauses.draw_cons]
    obtain ⟨apart, later⟩ := rest.draw_apart (body.draw (graph.attach
      [⟨decision, some ("case " ++ toString number)⟩] text .statement) ⟨graph.next, none⟩).1
      decision (number + 1)
    constructor
    · refine List.pairwise_cons.mpr ⟨fun other member same => ?_, apart⟩
      have behind := later other member
      omega
    · intro loose member
      rcases List.mem_cons.mp member with rfl | others
      · exact begins
      · have behind := later loose others
        omega

mutual

/-- A flow is drawn by moves that leave all open ends alone but the one it starts from. -/
theorem Flow.draw_run (flow : Flow) (graph : Graph) (start : OpenEnd) (others : List OpenEnd) :
    Sketch.Draws ⟨graph, start :: others⟩
      ⟨(flow.draw graph start).1, (flow.draw graph start).2 :: others⟩ := by
  have forked {test : String} : graph.next < (graph.attach [start] test .decision).next :=
    Graph.next_attach _ _ _ _ ▸ Int.lt_succ _
  cases flow with
  | skip => exact .refl _
  | seq first second =>
    exact (first.draw_run graph start others).trans (second.draw_run _ _ others)
  | step text => exact .branch graph text start others
  | either test opening yes otherwise no =>
    rw [Flow.draw_either]
    refine (Sketch.Draws.single (.fork test start (.optional .condition) others)).trans ?_
    refine (Sketch.Draws.branch _ opening _ _).trans ?_
    refine (yes.draw_run _ _ _).trans ?_
    refine (Sketch.Draws.swap _ _ _ _).trans ?_
    refine (Sketch.Draws.branch _ otherwise _ _).trans ?_
    refine (no.draw_run _ _ _).trans ?_
    refine (Sketch.Draws.swap _ _ _ _).trans ?_
    exact .single (.join "merge" _ [_] others (yes.draw_branches_apart no _ _ _ _ _))
  | optional test guard opening body =>
    rw [Flow.draw_optional]
    refine (Sketch.Draws.single (.fork test start (.optional guard) others)).trans ?_
    refine (Sketch.Draws.branch _ opening _ _).trans ?_
    refine (body.draw_run _ _ _).trans ?_
    exact .single (.join "merge" _ [_] others (body.draw_chain_apart .skip _ _ _ _ forked))
  | chain test opening yes next =>
    rw [Flow.draw_chain]
    refine (Sketch.Draws.single (.fork test start (.optional .condition) others)).trans ?_
    refine (Sketch.Draws.branch _ opening _ _).trans ?_
    refine (yes.draw_run _ _ _).trans ?_
    refine (Sketch.Draws.swap _ _ _ _).trans ?_
    refine (next.draw_run _ _ _).trans ?_
    refine (Sketch.Draws.swap _ _ _ _).trans ?_
    exact .single (.join "merge" _ [_] others (yes.draw_chain_apart next _ _ _ _ forked))
  | loop test body =>
    rw [Flow.draw_loop]
    intro bounded
    have returns := body.draw_body_returns bounded test (body.draw_run _ _ [])
    revert bounded
    refine (Sketch.Draws.single (.fork test start (.optional .condition) others)).trans ?_
    refine (Sketch.Draws.branch _ "loop body" _ _).trans ?_
    refine (body.draw_run _ _ _).trans ?_
    rw [(body.draw_branch (graph.attach [start] test .decision) _ "loop body").1.unlabelled]
    exact .single (.again _ _ others returns)
  | choose test clauses =>
    rw [Flow.draw_choose]
    cases clauses with
    | nil =>
      refine (Sketch.Draws.single (.fork test start .bare others)).trans ?_
      exact .branch _ "switch merge" _ _
    | cons text body rest =>
      refine (Sketch.Draws.single (.fork test start (.cases rest.count) others)).trans ?_
      refine ((Clauses.cons text body rest).draw_run _ _ 0 others).trans ?_
      exact .single (.join "switch merge" _ _ others
        ((Clauses.cons text body rest).draw_apart _ graph.next 0).1)
  | shortcut sign =>
    rw [Flow.draw_shortcut]
    refine (Sketch.Draws.single (.fork (sign ++ " short-circuit") start .shortcut others)).trans ?_
    exact .single (.join "continue" _ [_] others (List.pairwise_pair.mpr fun _ => ⟨rfl, rfl⟩))

/-- Clauses are drawn by moves that use up the case ends of their decision. -/
theorem Clauses.draw_run (clauses : Clauses) (graph : Graph) (decision : Int) (number : Nat)
    (others : List OpenEnd) :
    Sketch.Draws ⟨graph, endsAt decision (caseLabels number clauses.count) ++ others⟩
      ⟨(clauses.draw graph decision number).1,
        (clauses.draw graph decision number).2 ++ others⟩ := by
  cases clauses with
  | nil => exact .refl _
  | cons text body rest =>
    rw [Clauses.count, endsAt_caseLabels_succ]
    refine (Sketch.Draws.branch _ text _ _).trans ?_
    refine (body.draw_run _ _ _).trans ?_
    refine (Sketch.Draws.single (.reorder List.perm_middle.symm)).trans ?_
    refine (rest.draw_run _ decision (number + 1) _).trans ?_
    exact .single (.reorder List.perm_middle)

end

theorem Sketch.initial_bounded : Sketch.initial.Bounded :=
  ⟨fun _ member => absurd member List.not_mem_nil,
    fun _ member => List.mem_singleton.mp member ▸ Int.zero_lt_one⟩

/-- The graph of a flow is a sketch with one open end, led to the exit. -/
theorem Flow.graph_run (flow : Flow) : ∃ graph last,
    Sketch.Run .initial ⟨graph, [last]⟩ ∧ flow.graph = graph.attach [last] "EXIT" .exit :=
  ⟨_, _, flow.draw_run ⟨[⟨0, "ENTRY", .entry⟩], []⟩ ⟨0, none⟩ [] Sketch.initial_bounded, rfl⟩

end Tangle

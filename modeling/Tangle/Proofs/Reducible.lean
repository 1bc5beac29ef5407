/-
This file shows that loops are the only cycles of a drawn graph. Vertices are
numbered as they are drawn, and all edges lead to later vertices but those that
close a loop. Such an edge leads back to the decision of the loop, and every way
from the entry to where it starts comes through that decision.

Of the last fact only one half needs the way a loop is drawn: when the edge is
drawn, all that is behind the decision stems from it. The other half is that no
later move opens a way around the decision. A new vertex is left by no edge yet,
and an edge back to a decision that is on every way to its start adds no vertex to
those that can be reached around another one.
-/

import Tangle.Proofs.Outlined

namespace Tangle

/-! ### Ways around a vertex -/

namespace Graph

/-- A vertex is on every way from the entry to another one. -/
def Dominates (graph : Graph) (dominator vertex : Int) : Prop :=
  ∀ path : List Int, path.head? = some 0 → path.getLast? = some vertex →
    path.IsChain graph.Leads → dominator ∈ path

/-- The vertices to which a way leads from the entry that avoids a vertex. -/
inductive Evades (graph : Graph) (avoided : Int) : Int → Prop where
  | entry (other : 0 ≠ avoided) : Evades graph avoided 0
  | step {source target : Int} (way : Evades graph avoided source)
    (leads : graph.Leads source target) (other : target ≠ avoided) : Evades graph avoided target

variable {graph : Graph} {avoided vertex : Int}

theorem Evades.follow {source : Int} (evades : graph.Evades avoided source) {path : List Int}
    (ways : (source :: path).IsChain graph.Leads) (others : avoided ∉ path)
    (ends : (source :: path).getLast? = some vertex) : graph.Evades avoided vertex := by
  induction path generalizing source with
  | nil =>
    rw [List.getLast?_singleton, Option.some.injEq] at ends
    exact ends ▸ evades
  | cons target rest inductionHypothesis =>
    obtain ⟨leads, behind⟩ := List.isChain_cons_cons.mp ways
    rw [List.mem_cons, not_or] at others
    refine inductionHypothesis (evades.step leads (Ne.symm others.1)) behind others.2 ?_
    rwa [List.getLast?_cons_cons] at ends

theorem dominates_of_not_evades (blocked : ¬graph.Evades avoided vertex) :
    graph.Dominates avoided vertex := by
  intro path begins ends ways
  by_contra avoids
  cases path with
  | nil => cases begins
  | cons first rest =>
    rw [List.head?_cons, Option.some.injEq] at begins
    rw [List.mem_cons, not_or] at avoids
    have entry : graph.Evades avoided first := begins ▸ .entry (begins ▸ Ne.symm avoids.1)
    exact blocked (entry.follow ways avoids.2 ends)

/-- Around a vertex only earlier ones are reached, if all that is behind it stems from it. -/
theorem Evades.lt (evades : graph.Evades avoided vertex) (counted : 0 ≤ avoided)
    (through : ∀ edge ∈ graph.edges, avoided < edge.target → avoided ≤ edge.source) :
    vertex < avoided := by
  induction evades with
  | entry other => omega
  | step way leads other earlier =>
    obtain ⟨edge, member, rfl, rfl⟩ := leads
    have stems := through edge member
    omega

/-- A new vertex is not on the way to an old one. -/
theorem Evades.of_attach {ends : List OpenEnd} {label : String} {kind : VertexKind}
    (evades : (graph.attach ends label kind).Evades avoided vertex)
    (drawn : ∀ edge ∈ graph.edges, edge.source < graph.next) (old : vertex ≠ graph.next) :
    graph.Evades avoided vertex := by
  induction evades with
  | entry other => exact .entry other
  | step way leads other inductionHypothesis =>
    obtain ⟨edge, member, rfl, rfl⟩ := leads
    rcases List.mem_append.mp member with kept | new
    · have before := inductionHypothesis (Int.ne_of_lt (drawn edge kept))
      exact before.step ⟨edge, kept, rfl, rfl⟩ other
    · obtain ⟨loose, _, rfl⟩ := List.mem_map.mp new
      exact absurd rfl old

/-- A way to a vertex comes through another vertex or leads around it. -/
theorem Evades.through_or_around (evades : graph.Evades avoided vertex) (other : Int)
    (different : other ≠ avoided) : graph.Evades avoided other ∨ graph.Evades other vertex := by
  induction evades with
  | entry _ =>
    by_cases here : 0 = other
    · exact .inl (here ▸ .entry (here ▸ different))
    · exact .inr (.entry here)
  | @step source target way leads _ inductionHypothesis =>
    rcases inductionHypothesis with found | around
    · exact .inl found
    · by_cases here : target = other
      · exact .inl (here ▸ way.step leads (here ▸ different))
      · exact .inr (around.step leads here)

/-- An edge back to a vertex that cannot be avoided leads to nothing new. -/
theorem Evades.of_addEdge {source target : Int} {label : Option String}
    (evades : (graph.addEdge source target label).Evades avoided vertex)
    (blocked : ¬graph.Evades target source) : graph.Evades avoided vertex := by
  induction evades with
  | entry other => exact .entry other
  | step way leads other inductionHypothesis =>
    obtain ⟨edge, member, rfl, rfl⟩ := leads
    rcases List.mem_append.mp member with kept | new
    · exact inductionHypothesis.step ⟨edge, kept, rfl, rfl⟩ other
    · obtain rfl := List.mem_singleton.mp new
      rcases inductionHypothesis.through_or_around target other with found | around
      · exact found
      · exact absurd around blocked

end Graph

/-! ### Sketches whose cycles are loops -/

/-- An edge closes a loop. -/
abbrev Edge.isBack (edge : Edge) : Prop :=
  edge.label = some "continue"

namespace Sketch

/-- Edges lead forward, but those that close a loop. Such an edge leads back to a decision that
cannot be avoided on the way to its start, and it is the only one that leads there. -/
structure Reducible (sketch : Sketch) : Prop where
  forward : ∀ edge ∈ sketch.graph.edges, ¬edge.isBack → edge.source < edge.target
  back : ∀ edge ∈ sketch.graph.edges, edge.isBack → edge.target < edge.source ∧
    (∃ label, ⟨edge.target, label, .decision⟩ ∈ sketch.graph.vertices) ∧
    ¬sketch.graph.Evades edge.target edge.source
  once : sketch.graph.edges.Pairwise fun first second =>
    first.isBack → second.isBack → first.target ≠ second.target
  ends : ∀ loose ∈ sketch.ends, loose.label ≠ some "continue"

theorem Reducible.attach {graph : Graph} {closed others : List OpenEnd}
    {labels : List (Option String)} (reducible : Reducible ⟨graph, closed ++ others⟩)
    (connected : Connected ⟨graph, closed ++ others⟩) (label : String) (kind : VertexKind)
    (forth : some "continue" ∉ labels) :
    Reducible ⟨graph.attach closed label kind, endsAt graph.next labels ++ others⟩ := by
  obtain ⟨forward, back, once, ends⟩ := reducible
  have drawn : ∀ edge ∈ graph.edges, edge.source < graph.next :=
    fun edge member => (connected.joined edge member).1.2
  have new : ∀ edge ∈ closed.map (·.edgeTo graph.next),
      edge.source < edge.target ∧ ¬edge.isBack := by
    intro edge member
    obtain ⟨loose, shut, rfl⟩ := List.mem_map.mp member
    have held := List.mem_append_left others shut
    exact ⟨(connected.opened loose held).1.2, ends loose held⟩
  refine ⟨?_, ?_, ?_, ?_⟩
  · intro edge member onward
    rcases List.mem_append.mp member with old | fresh
    · exact forward edge old onward
    · exact (new edge fresh).1
  · intro edge member backward
    rcases List.mem_append.mp member with old | fresh
    · obtain ⟨later, ⟨text, decides⟩, blocked⟩ := back edge old backward
      refine ⟨later, ⟨text, List.mem_append_left _ decides⟩, fun evades => blocked ?_⟩
      exact evades.of_attach drawn (Int.ne_of_lt (drawn edge old))
    · exact absurd backward (new edge fresh).2
  · refine List.pairwise_append.mpr ⟨once, ?_, ?_⟩
    · exact List.pairwise_iff_forall_sublist.mpr fun pair backward =>
        absurd backward (new _ (pair.subset List.mem_cons_self)).2
    · exact fun _ _ second member _ backward => absurd backward (new second member).2
  · intro loose member
    rcases List.mem_append.mp member with fresh | old
    · obtain ⟨edge, own, rfl⟩ := List.mem_map.mp fresh
      rintro rfl
      exact forth own
    · exact ends loose (List.mem_append_right _ old)

theorem Reducible.addEdge {graph : Graph} {body decision : Int} {others : List OpenEnd}
    (reducible : Reducible ⟨graph, ⟨body, none⟩ :: others⟩) (counted : 0 ≤ decision)
    (returns : graph.Returns body decision) :
    Reducible ⟨graph.addEdge body decision (some "continue"), others⟩ := by
  obtain ⟨forward, back, once, ends⟩ := reducible
  have blocked : ¬graph.Evades decision body := by
    intro evades
    have earlier := evades.lt counted returns.through
    have later := returns.later
    omega
  refine ⟨?_, ?_, ?_, ?_⟩
  · intro edge member onward
    rcases List.mem_append.mp member with old | new
    · exact forward edge old onward
    · rw [List.mem_singleton.mp new] at onward
      exact absurd rfl onward
  · intro edge member backward
    rcases List.mem_append.mp member with old | new
    · obtain ⟨later, decides, around⟩ := back edge old backward
      exact ⟨later, decides, fun evades => around (evades.of_addEdge blocked)⟩
    · rw [List.mem_singleton.mp new]
      exact ⟨returns.later, returns.decides, fun evades => blocked (evades.of_addEdge blocked)⟩
  · refine List.pairwise_append.mpr ⟨once, List.pairwise_singleton _ _, ?_⟩
    intro first old second new backward _ same
    rw [List.mem_singleton.mp new] at same
    have earlier := returns.first first old same
    have later := (back first old backward).1
    rw [same] at later
    exact absurd later (Int.lt_asymm earlier)
  · exact fun loose member => ends loose (List.mem_cons_of_mem _ member)

theorem continue_notMem_of_fork {labels : List (Option String)} (group : Fork labels) :
    some "continue" ∉ labels := by
  cases group with
  | optional guard => cases guard <;> decide
  | shortcut => decide
  | cases count =>
    intro member
    obtain ⟨index, _, same⟩ := List.mem_map.mp member
    have letters := congrArg String.toList (Option.some.inj same)
    simp at letters
  | bare => decide

theorem Step.reducible {before after : Sketch} (move : Step before after)
    (holds : before.Connected ∧ before.Reducible) : after.Connected ∧ after.Reducible := by
  obtain ⟨connected, reducible⟩ := holds
  refine ⟨move.connected connected, ?_⟩
  cases move with
  | reorder same =>
    obtain ⟨forward, back, once, ends⟩ := reducible
    exact ⟨forward, back, once, fun loose member => ends loose (same.mem_iff.mpr member)⟩
  | @join graph label first more others _ =>
    exact @Reducible.attach graph (first :: more) others [none] reducible connected label
      .statement (by decide)
  | @fork graph label start labels group others =>
    exact @Reducible.attach graph [start] others labels reducible connected label .decision
      (continue_notMem_of_fork group)
  | @again graph body decision others returns =>
    obtain ⟨⟨counted, _⟩, inner⟩ := connected.opened ⟨decision, some "false"⟩ (by simp)
    have notEntry : decision ≠ 0 := inner (Option.some_ne_none _)
    exact @Reducible.attach _ [⟨decision, some "false"⟩] others [none]
      (reducible.addEdge counted returns)
      (connected.addEdge notEntry (some "continue")) "loop exit" .statement (by decide)

theorem initial_reducible : initial.Reducible :=
  ⟨fun _ member => absurd member List.not_mem_nil, fun _ member => absurd member List.not_mem_nil,
    .nil, fun _ member => List.mem_singleton.mp member ▸ nofun⟩

end Sketch

/-! ### The whole graph -/

/-- The cycles of the graph of a flow are loops. -/
theorem Flow.graph_reducible (flow : Flow) : Sketch.Reducible ⟨flow.graph, []⟩ := by
  obtain ⟨graph, last, run, drawn⟩ := flow.graph_run
  obtain ⟨connected, reducible⟩ := run.keeps (fun sketch => sketch.Connected ∧ sketch.Reducible)
    (fun _ _ => Sketch.Step.reducible) ⟨Sketch.initial_connected, Sketch.initial_reducible⟩
  rw [drawn]
  exact @Sketch.Reducible.attach graph [last] [] [] reducible connected "EXIT" .exit
    List.not_mem_nil

/-- What is drawn of a function is the graph of a flow. -/
theorem Source.exists_flow_of_flowGraph {source : Source} {function : Node} {graph : Graph}
    (drawn : source.flowGraph function = .ok graph) :
    ∃ flow, (Outline.ofNode source function).inner = .ok flow ∧ graph = flow.graph := by
  unfold flowGraph at drawn
  split at drawn
  next =>
    cases inner : (Outline.ofNode source function).inner with
    | error fault => rw [inner] at drawn; cases drawn
    | ok flow =>
      rw [inner] at drawn
      cases drawn
      exact ⟨flow, rfl, rfl⟩
  next => cases drawn

/-- At most one edge leads back to a vertex. -/
theorem Sketch.Reducible.length_le_one {graph : Graph} {ends : List OpenEnd}
    (reducible : Reducible ⟨graph, ends⟩) (id : Int) :
    ((graph.incoming id).filter (·.label = some "continue")).length ≤ 1 := by
  have kept : ((graph.incoming id).filter (·.label = some "continue")).Sublist graph.edges :=
    List.filter_sublist.trans List.filter_sublist
  have back : ∀ edge ∈ (graph.incoming id).filter (·.label = some "continue"),
      edge.target = id ∧ edge.isBack := by
    intro edge member
    obtain ⟨comes, backward⟩ := List.mem_filter.mp member
    exact ⟨of_decide_eq_true (List.mem_filter.mp comes).2, of_decide_eq_true backward⟩
  generalize (graph.incoming id).filter (·.label = some "continue") = edges at kept back
  rcases edges with _ | ⟨first, _ | ⟨second, rest⟩⟩
  · exact Nat.zero_le 1
  · exact Nat.le_refl 1
  · have both := List.pairwise_iff_forall_sublist.mp reducible.once
      ((((List.nil_sublist rest).cons_cons second).cons_cons first).trans kept)
    obtain ⟨firstTarget, firstBack⟩ := back first (by simp)
    obtain ⟨secondTarget, secondBack⟩ := back second (by simp)
    exact absurd (firstTarget.trans secondTarget.symm) (both firstBack secondBack)

/-- Edges of a drawn graph lead to later vertices, but those labelled `continue`. Such an edge leads
back to a decision, no other one leads back there, and every way from the entry to its start comes
through that decision. -/
theorem flowGraph_reducible (source : Source) (function : Node) (graph : Graph)
    (drawn : source.flowGraph function = .ok graph) :
    (∀ edge ∈ graph.edges, edge.label ≠ some "continue" → edge.source < edge.target) ∧
    (∀ edge ∈ graph.edges, edge.label = some "continue" → edge.target < edge.source ∧
      ∃ vertex ∈ graph.vertices, vertex.id = edge.target ∧ vertex.kind = .decision) ∧
    (∀ vertex ∈ graph.decisions,
      ((graph.incoming vertex.id).filter (·.label = some "continue")).length ≤ 1) ∧
    (∀ edge ∈ graph.edges, edge.label = some "continue" →
      graph.Dominates edge.target edge.source) := by
  obtain ⟨flow, _, rfl⟩ := Source.exists_flow_of_flowGraph drawn
  have reducible := flow.graph_reducible
  refine ⟨reducible.forward, ?_, fun vertex _ => reducible.length_le_one vertex.id, ?_⟩
  · intro edge member backward
    obtain ⟨later, ⟨label, decides⟩, _⟩ := reducible.back edge member backward
    exact ⟨later, _, decides, rfl, rfl⟩
  · intro edge member backward
    exact Graph.dominates_of_not_evades (reducible.back edge member backward).2.2

/-- A loop on a conjunction around a loop that is left at once, with a statement behind it. -/
def nestedLoops : Node :=
  .named .functionDeclaration none [.named .statementBlock (some .body) [
    .named .whileStatement none [
      .named .binaryExpression (some .condition)
        [⟨⟨0, .logicalAnd, false, false, 0, 0, some .operator⟩, []⟩],
      .named .statementBlock (some .body) [
        .named .forStatement none [.named .statementBlock (some .body)
          [.named .returnStatement none []]],
        .named .breakStatement none []]]]]

theorem flowGraph_reducible_nestedLoops :
    ∃ graph, Source.blank.flowGraph nestedLoops = .ok graph ∧
      (graph.edges.filter (·.label = some "continue")).map (fun edge => (edge.source, edge.target)) =
        [(7, 5), (9, 3)] ∧
      ∀ edge ∈ graph.edges, edge.label = some "continue" →
        graph.Dominates edge.target edge.source :=
  ⟨_, rfl, by decide, (flowGraph_reducible Source.blank nestedLoops _ rfl).2.2.2⟩

end Tangle

/-
This file counts what drawing adds to a graph. A decision between two ways adds
one independent cycle, a decision between clauses one less than it has clauses;
everything else is threaded in without a cycle. Counted as decisions, both add
one. The two counts differ in nothing but the weight of a decision between
clauses, so a flow has one weight with that as its parameter, and drawing is
followed once for both.
-/

import Tangle.Proofs.Sketch
import Mathlib

namespace Tangle

mutual

/-- The weight of a flow: one for each decision between two ways, and for a decision between clauses
what `choice` makes of their number. -/
def Flow.weight (choice : Nat → Nat) : Flow → Nat
  | .skip => 0
  | .seq first second => first.weight choice + second.weight choice
  | .step _ => 0
  | .either _ _ yes _ no => 1 + yes.weight choice + no.weight choice
  | .optional _ _ _ body => 1 + body.weight choice
  | .chain _ _ yes next => 1 + yes.weight choice + next.weight choice
  | .loop _ body => 1 + body.weight choice
  | .choose _ clauses => choice clauses.count + clauses.weight choice
  | .shortcut _ => 1

def Clauses.weight (choice : Nat → Nat) : Clauses → Nat
  | .nil => 0
  | .cons _ body rest => body.weight choice + rest.weight choice

end

/-! ### Tallies -/

/-- A number that is kept while a graph is drawn. A new decision adds `fork`, a new statement adds
what `join` says for the number of ends that lead to it, an edge back adds `back`. The last four
laws tie these to the weight of the construct that they make up. -/
structure Tally (choice : Nat → Nat) where
  count : Graph → Int
  fork : Int
  join : Nat → Int
  back : Int
  count_fork (graph : Graph) (start : OpenEnd) (label : String) :
    count (graph.attach [start] label .decision) = count graph + fork
  count_join (graph : Graph) (ends : List OpenEnd) (label : String) :
    count (graph.attach ends label .statement) = count graph + join ends.length
  count_back (graph : Graph) (source target : Int) (label : Option String) :
    count (graph.addEdge source target label) = count graph + back
  through : join 1 = 0
  meet : fork + join 2 = 1
  again : fork + back = 1
  clauses (number : Nat) : fork + join (number - 1 + 1) = choice number

theorem Clauses.length_draw (clauses : Clauses) (graph : Graph) (decision : Int) (number : Nat) :
    (clauses.draw graph decision number).2.length = clauses.count := by
  cases clauses with
  | nil => rfl
  | cons text body rest => exact congrArg (· + 1) (rest.length_draw _ decision (number + 1))

/-- The clauses of a decision meet again by one edge each, but by one edge at least. -/
theorem Clauses.length_closed (clauses : Clauses) (graph : Graph) (decision : Int) :
    (if (clauses.draw graph decision 0).2.isEmpty then [⟨decision, none⟩]
      else (clauses.draw graph decision 0).2).length = clauses.count - 1 + 1 := by
  cases clauses with
  | nil => rfl
  | cons text body rest => exact (Clauses.cons text body rest).length_draw graph decision 0

section

variable {choice : Nat → Nat} (tally : Tally choice)

theorem Tally.count_branch (graph : Graph) (start : OpenEnd) (label : String) :
    tally.count (graph.attach [start] label .statement) = tally.count graph := by
  rw [tally.count_join, List.length_singleton, tally.through, Int.add_zero]

theorem Tally.count_meet (graph : Graph) (first second : OpenEnd) (label : String) :
    tally.count (graph.attach [first, second] label .statement) =
      tally.count graph + tally.join 2 :=
  tally.count_join graph [first, second] label

mutual

/-- Drawing a flow adds its weight. -/
theorem Flow.draw_tally (flow : Flow) (graph : Graph) (start : OpenEnd) :
    tally.count (flow.draw graph start).1 = tally.count graph + flow.weight choice := by
  cases flow with
  | skip => rw [Flow.weight, Int.natCast_zero, Int.add_zero]; rfl
  | seq first second =>
    have before := first.draw_tally graph start
    have behind := second.draw_tally (first.draw graph start).1 (first.draw graph start).2
    simp only [Flow.draw, Flow.weight]
    omega
  | step text =>
    rw [Flow.weight, Int.natCast_zero, Int.add_zero]
    exact tally.count_branch graph start text
  | either test opening yes otherwise no =>
    simp only [Flow.draw_either, Flow.weight, tally.count_meet, no.draw_tally, yes.draw_tally,
      tally.count_branch, tally.count_fork]
    have meet := tally.meet
    omega
  | optional test guard opening body =>
    simp only [Flow.draw_optional, Flow.weight, tally.count_meet, body.draw_tally,
      tally.count_branch, tally.count_fork]
    have meet := tally.meet
    omega
  | chain test opening yes next =>
    simp only [Flow.draw_chain, Flow.weight, tally.count_meet, next.draw_tally, yes.draw_tally,
      tally.count_branch, tally.count_fork]
    have meet := tally.meet
    omega
  | loop test body =>
    simp only [Flow.draw_loop, Flow.weight, tally.count_branch, tally.count_back, body.draw_tally,
      tally.count_fork]
    have again := tally.again
    omega
  | choose test clauses =>
    simp only [Flow.draw_choose, Flow.weight, tally.count_join, clauses.length_closed,
      clauses.draw_tally, tally.count_fork]
    have choice := tally.clauses clauses.count
    omega
  | shortcut sign =>
    simp only [Flow.draw_shortcut, Flow.weight, tally.count_meet, tally.count_fork]
    have meet := tally.meet
    omega

theorem Clauses.draw_tally (clauses : Clauses) (graph : Graph) (decision : Int) (number : Nat) :
    tally.count (clauses.draw graph decision number).1 =
      tally.count graph + clauses.weight choice := by
  cases clauses with
  | nil => rw [Clauses.weight, Int.natCast_zero, Int.add_zero]; rfl
  | cons text body rest =>
    simp only [Clauses.draw, Clauses.weight, Graph.branchTo_eq_attach, rest.draw_tally,
      body.draw_tally, tally.count_branch]
    omega

end

end

/-! ### Cycles and decisions -/

/-- The edges that a graph has more than vertices. -/
def Graph.excess (graph : Graph) : Int :=
  graph.edges.length - graph.vertices.length

theorem Graph.excess_attach (graph : Graph) (ends : List OpenEnd) (label : String)
    (kind : VertexKind) :
    (graph.attach ends label kind).excess = graph.excess + (ends.length - 1) := by
  simp only [excess, attach, List.length_append, List.length_map, List.length_singleton]
  omega

theorem Graph.excess_addEdge (graph : Graph) (source target : Int) (label : Option String) :
    (graph.addEdge source target label).excess = graph.excess + 1 := by
  simp only [excess, addEdge, List.length_append, List.length_singleton]
  omega

/-- Ends that meet close one cycle less than they are many. -/
def Tally.excess : Tally (· - 1) where
  count := Graph.excess
  fork := 0
  join ends := ends - 1
  back := 1
  count_fork graph start label := graph.excess_attach [start] label .decision
  count_join graph ends label := graph.excess_attach ends label .statement
  count_back := Graph.excess_addEdge
  through := rfl
  meet := rfl
  again := rfl
  clauses number := by simp

/-- The decisions of a graph. -/
def Tally.decisions : Tally fun _ => 1 where
  count graph := graph.decisions.length
  fork := 1
  join _ := 0
  back := 0
  count_fork graph start label := by
    rw [Graph.decisions_attach_decision, List.length_append, Int.natCast_add]
    rfl
  count_join graph ends label := by
    rw [Graph.decisions_attach_of_ne _ _ _ (by decide), Int.add_zero]
  count_back graph source target label := (Int.add_zero _).symm
  through := rfl
  meet := rfl
  again := rfl
  clauses _ := rfl

/-- The cyclomatic number of a graph with one entry and one exit. -/
def Graph.cyclomaticNumber (graph : Graph) : Int :=
  graph.edges.length - graph.vertices.length + 2

/-- The cyclomatic number of a graph is one more than the weight of its flow. -/
theorem Flow.graph_cyclomaticNumber (flow : Flow) :
    flow.graph.cyclomaticNumber = flow.weight (· - 1) + 1 := by
  have drawn := flow.draw_tally .excess ⟨[⟨0, "ENTRY", .entry⟩], []⟩ ⟨0, none⟩
  have start : Graph.excess ⟨[⟨0, "ENTRY", .entry⟩], []⟩ = -1 := rfl
  simp only [Tally.excess, start] at drawn
  rw [Graph.cyclomaticNumber, ← Graph.excess]
  simp only [Flow.graph, Graph.continueWith_eq_attach, Graph.excess_attach, drawn,
    List.length_singleton]
  omega

/-- A graph has a decision for each decision of its flow. -/
theorem Flow.graph_decisions (flow : Flow) :
    flow.graph.decisions.length = flow.weight fun _ => 1 := by
  have drawn := flow.draw_tally .decisions ⟨[⟨0, "ENTRY", .entry⟩], []⟩ ⟨0, none⟩
  have start : Graph.decisions ⟨[⟨0, "ENTRY", .entry⟩], []⟩ = [] := rfl
  simp only [Tally.decisions, start, List.length_nil] at drawn
  simp only [Flow.graph, Graph.continueWith_eq_attach]
  rw [Graph.decisions_attach_of_ne _ _ _ (by decide)]
  omega

end Tangle

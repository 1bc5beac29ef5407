/-
This file shows which functions have a control flow graph: all but those that
hold a ternary without a condition. Together with what is known of drawn graphs
this says that outlining and drawing never fail half way.
-/

import Tangle.Flow.Outline
import Tangle.Proofs.Connected
import Mathlib.Data.List.Forall2

namespace Tangle

/-! ### Computations that give a result -/

/-- A computation gives a result that has the property. -/
def Yields {α : Type} (result : Except NodeError α) (property : α → Prop) : Prop :=
  ∃ value, result = .ok value ∧ property value

namespace Yields

variable {α β : Type}

theorem ok {value : α} {property : α → Prop} (holds : property value) :
    Yields (.ok value) property :=
  ⟨value, rfl, holds⟩

theorem bind {result : Except NodeError α} {next : α → Except NodeError β}
    {before : α → Prop} {after : β → Prop} (first : Yields result before)
    (onwards : ∀ value, before value → Yields (next value) after) :
    Yields (result >>= next) after := by
  obtain ⟨value, rfl, holds⟩ := first
  exact onwards value holds

theorem map {result : Except NodeError α} {change : α → β} {before : α → Prop}
    {after : β → Prop} (first : Yields result before)
    (onwards : ∀ value, before value → after (change value)) :
    Yields (result.map change) after := by
  obtain ⟨value, rfl, holds⟩ := first
  exact ok (onwards value holds)

/-- Where each item gives a result, so do all of them, item by item. -/
theorem mapM {items : List α} {action : α → Except NodeError β} {property : α → β → Prop}
    (each : ∀ item ∈ items, Yields (action item) (property item)) :
    Yields (items.mapM action) (List.Forall₂ property items) := by
  induction items with
  | nil => exact ok .nil
  | cons item rest inductionHypothesis =>
    rw [List.mapM_cons]
    refine (each item List.mem_cons_self).bind fun value holds => ?_
    refine (inductionHypothesis fun other member =>
      each other (List.mem_cons_of_mem _ member)).bind fun values others => ?_
    exact ok (.cons holds others)

end Yields

/-- A computation gives a result. -/
abbrev Settled {α : Type} (result : Except NodeError α) : Prop :=
  Yields result fun _ => True

/-! ### Outlines of nodes -/

namespace Outline

theorem ofNodes_eq_map (source : Source) (nodes : List Node) :
    ofNodes source nodes = nodes.map (ofNode source) := by
  induction nodes with
  | nil => rfl
  | cons node rest inductionHypothesis => rw [ofNodes, inductionHypothesis, List.map_cons]

theorem ofNode_node (source : Source) (node : Node) : (ofNode source node).node = node := by
  cases node
  rfl

theorem ofNode_parts (source : Source) (node : Node) :
    (ofNode source node).parts = node.children.map (ofNode source) := by
  cases node
  rw [ofNode, ← ofNodes_eq_map]
  rfl

/-- A part that a construct looks for is the outline of the child that stands there. -/
theorem ofNode_part? (source : Source) (node : Node) (field : Field) :
    (ofNode source node).part? field = (node.child? field).map (ofNode source) := by
  rw [part?, ofNode_parts, List.find?_map, Node.child?]
  simp only [Function.comp_def, ofNode_node]

/-! ### Outlines with flow -/

/-- The outline has flow, and so has everything below it. -/
inductive Complete : Outline → Prop where
  | intro {outline : Outline} (flow : Settled outline.flow) (inner : Settled outline.inner)
    (parts : ∀ part ∈ outline.parts, Complete part) : Complete outline

variable {outline below : Outline}

theorem Complete.flow (complete : outline.Complete) : Settled outline.flow := by
  cases complete with
  | intro flow _ _ => exact flow

theorem Complete.inner (complete : outline.Complete) : Settled outline.inner := by
  cases complete with
  | intro _ inner _ => exact inner

/-- Everything below the outline has flow. -/
def Grounded (outline : Outline) : Prop :=
  ∀ part ∈ outline.parts, part.Complete

theorem Complete.grounded (complete : outline.Complete) : outline.Grounded := by
  cases complete with
  | intro _ _ parts => exact parts

theorem Grounded.part (grounded : outline.Grounded) {field : Field}
    (found : outline.part? field = some below) : below.Complete :=
  grounded below (List.mem_of_find?_eq_some found)

theorem Grounded.namedParts (grounded : outline.Grounded) (member : below ∈ outline.namedParts) :
    below.Complete :=
  grounded below (List.mem_filter.mp member).1

theorem Grounded.contents (grounded : outline.Grounded) (member : below ∈ outline.contents) :
    below.Complete :=
  grounded.namedParts (List.mem_filter.mp member).1

theorem Complete.statements (complete : outline.Complete) (member : below ∈ outline.statements) :
    below.Complete := by
  rw [Outline.statements] at member
  split at member
  · exact complete.grounded.contents member
  · rw [List.mem_singleton.mp member]
    exact complete

theorem flowOf_settled (grounded : outline.Grounded) (field : Field) :
    Settled (flowOf (outline.part? field)) := by
  cases found : outline.part? field with
  | none => exact .ok trivial
  | some part => exact (grounded.part found).flow

theorem flowOfAll_settled {outlines : List Outline}
    (complete : ∀ outline ∈ outlines, outline.Complete) : Settled (flowOfAll outlines) :=
  (Yields.mapM fun outline member => (complete outline member).flow).map fun _ _ => trivial

theorem branch_settled (source : Source) {body : Option Outline} (fallback : String)
    (complete : ∀ found, body = some found → found.Complete) :
    Settled (branch source body fallback) := by
  have statements : ∀ statement ∈ (body.map statements).getD [], statement.Complete := by
    cases body with
    | none => exact fun _ member => absurd member List.not_mem_nil
    | some found => exact fun _ => (complete found rfl).statements
  unfold branch
  split
  next => exact .ok trivial
  next first rest split =>
    rw [split] at statements
    split
    · refine (statements first List.mem_cons_self).inner.bind fun _ _ => ?_
      refine (flowOfAll_settled fun part member => ?_).bind fun _ _ => .ok trivial
      exact statements part (List.mem_cons_of_mem _ member)
    · exact (flowOfAll_settled statements).bind fun _ _ => .ok trivial

/-! ### Constructs -/

theorem conditional_settled (source : Source) (grounded : outline.Grounded) :
    Settled (outline.conditional source) := by
  unfold conditional
  refine (flowOf_settled grounded .condition).bind fun _ _ => ?_
  refine (branch_settled source "then" fun _ => grounded.part).bind ?_
  rintro ⟨opening, yes⟩ -
  dsimp only
  split
  next => exact .ok trivial
  next other chosen =>
    obtain ⟨alternative, found, head⟩ := Option.bind_eq_some_iff.mp chosen
    have complete := (grounded.part found).grounded.contents (List.mem_of_head? head)
    split
    · exact complete.flow.bind fun _ _ => .ok trivial
    · refine (branch_settled source "else" fun _ same => ?_).bind fun _ _ => .ok trivial
      exact Option.some.inj same ▸ complete

theorem loop_settled (source : Source) (grounded : outline.Grounded) :
    Settled (outline.loop source) := by
  unfold loop
  refine (flowOfAll_settled fun part member => ?_).bind fun _ _ => ?_
  · exact grounded.namedParts (List.mem_filter.mp member).1
  · exact (flowOf_settled grounded .body).bind fun _ _ => .ok trivial

theorem clause_settled (source : Source) (grounded : outline.Grounded) :
    Settled (outline.clause source) := by
  unfold clause
  refine (flowOf_settled grounded .value).bind fun _ _ => ?_
  refine (flowOfAll_settled fun part member => ?_).bind fun _ _ => .ok trivial
  exact grounded part (List.mem_filter.mp member).1

theorem switch_settled (source : Source) (grounded : outline.Grounded) :
    Settled (outline.switch source) := by
  unfold switch
  refine (flowOf_settled grounded .value).bind fun _ _ => ?_
  refine (Yields.mapM fun part member => clause_settled source ?_).bind fun _ _ => .ok trivial
  unfold clauses at member
  split at member
  next body found =>
    exact ((grounded.part found).grounded.namedParts (List.mem_filter.mp member).1).grounded
  next => exact absurd member List.not_mem_nil

theorem ternary_settled (source : Source) (grounded : outline.Grounded)
    (condition : (outline.part? .condition).isSome) : Settled (outline.ternary source) := by
  obtain ⟨test, found⟩ := Option.isSome_iff_exists.mp condition
  rw [ternary, found]
  refine (grounded.part found).flow.bind fun _ _ => ?_
  refine (flowOf_settled grounded .consequence).bind fun _ _ => ?_
  exact (flowOf_settled grounded .alternative).bind fun _ _ => .ok trivial

theorem rescue_settled (source : Source) {handler : Option Outline}
    (complete : ∀ found, handler = some found → found.Complete) :
    Settled (rescue source handler) := by
  cases handler with
  | none => exact .ok trivial
  | some found =>
    have within := (complete found rfl).grounded
    exact (branch_settled source "catch body" fun _ => within.part).bind fun _ _ => .ok trivial

theorem attempt_settled (source : Source) (grounded : outline.Grounded) :
    Settled (outline.attempt source) := by
  unfold attempt
  refine (flowOf_settled grounded .body).bind fun _ _ => ?_
  refine (rescue_settled source fun _ => grounded.part).bind fun _ _ => ?_
  exact (flowOf_settled grounded .finalizer).bind fun _ _ => .ok trivial

theorem terminal_settled (source : Source) (inner : Settled outline.inner) :
    Settled (outline.terminal source) :=
  inner.bind fun _ _ => .ok trivial

theorem operation_settled (grounded : outline.Grounded) (inner : Settled outline.inner) :
    Settled outline.operation := by
  unfold operation
  split
  · exact inner
  · exact inner
  · refine (flowOf_settled grounded .left).bind fun _ _ => ?_
    exact (flowOf_settled grounded .right).bind fun _ _ => .ok trivial

/-- A construct has flow when everything below it has, unless it is a ternary without a
condition. -/
theorem construct_settled (source : Source) (grounded : outline.Grounded)
    (inner : Settled outline.inner)
    (condition : outline.node.kind = .ternaryExpression → (outline.part? .condition).isSome) :
    Settled (outline.construct source) := by
  unfold construct
  split
  next => exact .ok trivial
  split
  next => exact conditional_settled source grounded
  iterate 4 next => exact loop_settled source grounded
  next => exact switch_settled source grounded
  next kind => exact ternary_settled source grounded (condition kind)
  next => exact attempt_settled source grounded
  iterate 4 next => exact terminal_settled source inner
  next => exact operation_settled grounded inner
  next => exact inner

mutual

/-- Outlining gives everything flow where no ternary lacks its condition. -/
theorem ofNode_complete (source : Source) : (node : Node) →
    (∀ below ∈ node.walk fun _ => false,
      below.kind = .ternaryExpression → (below.child? .condition).isSome) →
    (ofNode source node).Complete
  | ⟨tag, children⟩, conditions => by
    rw [Node.walk, if_neg Bool.false_ne_true] at conditions
    have grounded := ofNodes_complete source children fun below member =>
      conditions below (List.mem_cons_of_mem _ member)
    have inner : Settled (flowOfAll ((ofNodes source children).filter (·.node.isNamed))) :=
      flowOfAll_settled fun part member => grounded part (List.mem_filter.mp member).1
    refine .intro (construct_settled source grounded inner fun kind => ?_) inner grounded
    have present := conditions ⟨tag, children⟩ List.mem_cons_self kind
    rw [← @Option.isSome_map _ _ (ofNode source), ← ofNode_part?, ofNode] at present
    exact present

theorem ofNodes_complete (source : Source) : (nodes : List Node) →
    (∀ below ∈ Node.walkAll (fun _ => false) nodes,
      below.kind = .ternaryExpression → (below.child? .condition).isSome) →
    ∀ part ∈ ofNodes source nodes, part.Complete
  | [], _ => fun _ member => absurd member List.not_mem_nil
  | node :: rest, conditions => by
    rw [Node.walkAll] at conditions
    intro part member
    rcases List.mem_cons.mp member with rfl | others
    · exact ofNode_complete source node fun below member =>
        conditions below (List.mem_append_left _ member)
    · exact ofNodes_complete source rest (fun below member =>
        conditions below (List.mem_append_right _ member)) part others

end

end Outline

/-- Every function in which no ternary lacks its condition has a control flow graph, and all
vertices of that graph lie on a way from its only entry to its only exit. -/
theorem flowGraph_wellFormed (source : Source) (function : Node)
    (isFunction : function.isFunction = true)
    (conditions : ∀ node ∈ function.walk fun _ => false,
      node.kind = .ternaryExpression → (node.child? .condition).isSome) :
    ∃ graph, source.flowGraph function = .ok graph ∧ graph.WellFormed := by
  obtain ⟨flow, drawn, _⟩ := (Outline.ofNode_complete source function conditions).inner
  refine ⟨flow.graph, ?_, flow.graph_wellFormed⟩
  rw [Source.flowGraph, if_pos isFunction, drawn]
  rfl

/-- A named node that covers no text. -/
def Node.named (kind : Kind) (field : Option Field) (children : List Node) : Node :=
  ⟨⟨0, kind, true, false, 0, 0, field⟩, children⟩

/-- A source without text. -/
def Source.blank : Source :=
  ⟨"", .javascript, [], Tree.empty⟩

/-- A conditional on a ternary, with another conditional and a switch that lack all their parts, and
a ternary in a nested function. -/
def bareConstructs : Node :=
  .named .arrowFunction none [.named .statementBlock (some .body) [
    .named .ifStatement none [
      .named .ternaryExpression (some .condition)
        [.named (.other "identifier") (some .condition) []],
      .named (.other "else_clause") (some .alternative) [.named .ifStatement none []]],
    .named .switchStatement none [],
    .named .function none [.named .ternaryExpression none [.named .comment (some .condition) []]]]]

theorem flowGraph_wellFormed_bareConstructs :
    bareConstructs.isFunction = true ∧
    (∀ node ∈ bareConstructs.walk fun _ => false,
      node.kind = .ternaryExpression → (node.child? .condition).isSome) ∧
    ∃ graph, Source.blank.flowGraph bareConstructs = .ok graph ∧ graph.WellFormed :=
  ⟨by decide, by decide, flowGraph_wellFormed _ _ (by decide) (by decide)⟩

end Tangle

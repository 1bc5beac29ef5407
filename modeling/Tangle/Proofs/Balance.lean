/-
This file weighs outlines against trees. In a tree that is shaped as the grammar
shapes it, the flow of every node weighs what is drawn of the node: no part of a
construct is outlined twice, and none is left out but the heads of catch clauses.

The argument goes from the leaves up, along the outline. Each construct gathers
the flows of its parts, which weigh what the parts do, and adds the weight of its
own decision; that these parts are all there is below it is what the shape says.
-/

import Tangle.Proofs.Outlined
import Tangle.Proofs.Shape
import Tangle.Proofs.Weight

namespace Tangle

/-- The statements of a block, or the one statement that stands in place of a block. -/
def Node.statements (node : Node) : List Node :=
  if node.kind == .statementBlock then node.contents else [node]

/-- Whether a child of a loop passes for its body. -/
def Node.isLoopBody (node child : Node) : Bool :=
  (node.child? .body).any (·.sameSpan child)

namespace Outline

/-! ### Outlines read off the tree -/

theorem ofNode_flow (source : Source) (node : Node) :
    (ofNode source node).flow = (ofNode source node).construct source := by
  cases node
  rfl

theorem ofNode_namedParts (source : Source) (node : Node) :
    (ofNode source node).namedParts = node.namedChildren.map (ofNode source) := by
  rw [namedParts, ofNode_parts, List.filter_map]
  simp only [Function.comp_def, ofNode_node]
  rfl

theorem ofNode_inner (source : Source) (node : Node) :
    (ofNode source node).inner = flowOfAll (node.namedChildren.map (ofNode source)) := by
  rw [← ofNode_namedParts]
  cases node
  rfl

theorem ofNode_partsAt (source : Source) (node : Node) (field : Field) :
    (ofNode source node).partsAt field = (node.childrenAt field).map (ofNode source) := by
  rw [partsAt, ofNode_parts, List.filter_map]
  simp only [Function.comp_def, ofNode_node]
  rfl

theorem ofNode_contents (source : Source) (node : Node) :
    (ofNode source node).contents = node.contents.map (ofNode source) := by
  rw [contents, ofNode_namedParts, List.filter_map]
  simp only [Function.comp_def, ofNode_node]
  rfl

theorem ofNode_statements (source : Source) (node : Node) :
    (ofNode source node).statements = node.statements.map (ofNode source) := by
  rw [statements, Node.statements, ofNode_node, ofNode_contents]
  split <;> rfl

end Outline

/-! ### Balanced nodes -/

section

variable (source : Source) (choice : Nat → Nat)

/-- A computation gives a flow of the given weight. -/
abbrev Weighs (result : Except NodeError Flow) (weight : Nat) : Prop :=
  Yields result fun flow => flow.weight choice = weight

/-- A node is shaped down to its nested functions, and the flow of everything in it weighs what is
drawn of it. A catch clause has no flow of its own. -/
inductive Balanced : Node → Prop where
  | function {node : Node} (isFunction : node.isFunction = true) : Balanced node
  | visible {node : Node} (shaped : node.Shaped)
    (children : ∀ child ∈ node.children, Balanced child)
    (flow : node.kind ≠ .catchClause →
      Weighs choice (Outline.ofNode source node).flow (node.load choice)) : Balanced node

/-- A node is shaped and stands over balanced children. -/
structure Poised (node : Node) : Prop where
  shaped : node.Shaped
  children : ∀ child ∈ node.children, Balanced source choice child

end

section

open Outline

variable {source : Source} {choice : Nat → Nat} {node child : Node}

theorem Balanced.poised (balanced : Balanced source choice node)
    (isVisible : node.isFunction = false) : Poised source choice node := by
  cases balanced with
  | function isFunction => exact absurd isFunction (Bool.eq_false_iff.mp isVisible)
  | visible shaped children _ => exact ⟨shaped, children⟩

theorem Balanced.weighs (balanced : Balanced source choice node)
    (uncaught : node.kind ≠ .catchClause) :
    Weighs choice (ofNode source node).flow (node.load choice) := by
  cases balanced with
  | function isFunction =>
    rw [ofNode_flow, construct, ofNode_node, if_pos isFunction, Node.load_of_isFunction isFunction]
    exact .ok rfl
  | visible _ _ flow => exact flow uncaught

/-- Only a guarded block stands over a catch clause. -/
theorem Poised.uncaught (poised : Poised source choice node) (unguarded : node.kind ≠ .tryStatement)
    (member : child ∈ node.children) : child.kind ≠ .catchClause :=
  fun caught => unguarded (poised.shaped.handles child member caught).1

/-- The child in a field stands over balanced children, too, unless it is a function. -/
theorem Poised.childAt (poised : Poised source choice node) {field : Field}
    (found : node.child? field = some child) (isVisible : child.isFunction = false) :
    Poised source choice child :=
  (poised.children child (List.mem_of_find?_eq_some found)).poised isVisible

theorem map_eq_of_forall₂ {α β γ : Type} {load : α → γ} {weight : β → γ} {items : List α}
    {results : List β}
    (each : List.Forall₂ (fun item result => weight result = load item) items results) :
    results.map weight = items.map load := by
  rw [← List.forall₂_eq_eq_eq, List.forall₂_map_left_iff, List.forall₂_map_right_iff]
  exact each.flip

/-- What follows from a relation for the items of a list it holds between. -/
theorem forall₂_imp_of_mem {α β : Type} {related implied : α → β → Prop} {items : List α}
    {others : List β} (each : List.Forall₂ related items others)
    (step : ∀ item ∈ items, ∀ other, related item other → implied item other) :
    List.Forall₂ implied items others := by
  refine ((List.forall₂_and_left _ _).mpr ⟨fun _ member => member, each⟩).imp ?_
  rintro item other ⟨member, pair⟩
  exact step item member other pair

theorem Flow.weight_ofList (flows : List Flow) :
    (Flow.ofList flows).weight choice = (flows.map (Flow.weight choice)).sum := by
  induction flows with
  | nil => rfl
  | cons flow rest inductionHypothesis =>
    rw [Flow.ofList, Flow.weight, inductionHypothesis, List.map_cons, List.sum_cons]

/-- Balanced nodes one behind the other weigh what each of them does. -/
theorem flowOfAll_weighs {nodes : List Node}
    (balanced : ∀ node ∈ nodes, Balanced source choice node)
    (uncaught : ∀ node ∈ nodes, node.kind ≠ .catchClause) :
    Weighs choice (flowOfAll (nodes.map (ofNode source))) (nodes.map (Node.load choice)).sum := by
  have each : ∀ node ∈ nodes, Weighs choice (ofNode source node).flow (node.load choice) :=
    fun node member => (balanced node member).weighs (uncaught node member)
  rw [flowOfAll, List.mapM_map]
  refine (Yields.mapM each).map fun flows weights => ?_
  rw [Flow.weight_ofList, map_eq_of_forall₂ weights]

theorem Poised.flowOfAll (poised : Poised source choice node)
    (unguarded : node.kind ≠ .tryStatement) {nodes : List Node}
    (below : ∀ child ∈ nodes, child ∈ node.children) :
    Weighs choice (flowOfAll (nodes.map (ofNode source))) (nodes.map (Node.load choice)).sum :=
  flowOfAll_weighs (fun child member => poised.children child (below child member))
    fun child member => poised.uncaught unguarded (below child member)

/-- The children of a node, one behind the other. -/
theorem Poised.inner (poised : Poised source choice node) (unguarded : node.kind ≠ .tryStatement) :
    Weighs choice (ofNode source node).inner (node.loadBelow choice) := by
  rw [ofNode_inner, ← poised.shaped.sum_namedChildren]
  exact poised.flowOfAll unguarded fun child member => (List.mem_filter.mp member).1

/-- The child in a field, if there is one. -/
theorem Poised.flowOf (poised : Poised source choice node) (field : Field)
    (uncaught : ∀ child ∈ node.child? field, child.kind ≠ .catchClause) :
    Weighs choice (flowOf ((ofNode source node).part? field)) (node.loadAt choice field) := by
  rw [ofNode_part?, Node.loadAt]
  cases found : node.child? field with
  | none => exact .ok rfl
  | some child =>
    exact (poised.children child (List.mem_of_find?_eq_some found)).weighs (uncaught child found)

/-! ### Branches -/

theorem Kind.isFrame_of_isTerminal {kind : Kind} (terminal : kind.isTerminal = true) :
    kind.isFrame = true := by
  unfold Kind.isTerminal at terminal
  split at terminal
  iterate 4 next => rfl
  next => cases terminal

/-- A statement that leaves the block weighs what its expression does. -/
theorem Balanced.inner_of_isTerminal (balanced : Balanced source choice node)
    (terminal : node.kind.isTerminal = true) :
    Weighs choice (ofNode source node).inner (node.load choice) := by
  have frame := Kind.isFrame_of_isTerminal terminal
  rw [Node.load_of_isFrame frame]
  refine (balanced.poised (Node.isFunction_of_isFrame frame)).inner fun guarded => ?_
  rw [guarded] at terminal
  cases terminal

theorem Balanced.statements (balanced : Balanced source choice node)
    (uncaught : node.kind ≠ .catchClause) {statement : Node}
    (member : statement ∈ node.statements) :
    Balanced source choice statement ∧ statement.kind ≠ .catchClause := by
  rw [Node.statements] at member
  split at member
  next block =>
    have kind : node.kind = .statementBlock := beq_iff_eq.mp block
    have poised := balanced.poised (Node.isFunction_of_isFrame (by rw [kind]; rfl))
    have below := Node.mem_children_of_mem_contents member
    exact ⟨poised.children statement below, poised.uncaught (by rw [kind]; decide) below⟩
  next =>
    rw [List.mem_singleton.mp member]
    exact ⟨balanced, uncaught⟩

theorem Balanced.sum_statements (balanced : Balanced source choice node) :
    (node.statements.map (Node.load choice)).sum = node.load choice := by
  rw [Node.statements]
  split
  next block =>
    have frame : node.kind.isFrame = true := by rw [beq_iff_eq.mp block]; rfl
    rw [(balanced.poised (Node.isFunction_of_isFrame frame)).shaped.sum_contents,
      Node.load_of_isFrame frame]
  next => rw [List.map_singleton, List.sum_singleton]

/-- A branch weighs what its body does, whichever way its first statement is shown. -/
theorem branch_weighs {body : Option Node} (fallback : String)
    (balanced : ∀ found ∈ body, Balanced source choice found)
    (uncaught : ∀ found ∈ body, found.kind ≠ .catchClause) :
    Yields (branch source (body.map (ofNode source)) fallback) fun result =>
      result.2.weight choice = (body.map (Node.load choice)).getD 0 := by
  cases body with
  | none => exact .ok rfl
  | some found =>
    have each : ∀ statement ∈ found.statements,
        Balanced source choice statement ∧ statement.kind ≠ .catchClause :=
      fun _ => (balanced found rfl).statements (uncaught found rfl)
    have all := (balanced found rfl).sum_statements
    simp only [branch, Option.map_some, Option.getD_some, ofNode_statements]
    rw [← all]
    generalize found.statements = statements at each
    cases statements with
    | nil => exact .ok rfl
    | cons first rest =>
      simp only [List.map_cons, ofNode_node]
      split
      next terminal =>
        -- The statement itself is the opening vertex, so only its expression is left to thread.
        refine ((each first List.mem_cons_self).1.inner_of_isTerminal terminal).bind
          fun inside weight => ?_
        refine (flowOfAll_weighs (fun node member => (each node (.tail _ member)).1)
          fun node member => (each node (.tail _ member)).2).bind fun behind weights => ?_
        exact .ok (congrArg₂ (· + ·) weight weights)
      next =>
        exact (flowOfAll_weighs (fun node member => (each node member).1)
          fun node member => (each node member).2).bind fun _ weights => .ok weights

theorem Poised.branch (poised : Poised source choice node) (unguarded : node.kind ≠ .tryStatement)
    (field : Field) (fallback : String) :
    Yields (branch source ((ofNode source node).part? field) fallback) fun result =>
      result.2.weight choice = node.loadAt choice field := by
  rw [ofNode_part?]
  refine branch_weighs fallback (fun child found => ?_) fun child found => ?_
  · exact poised.children child (List.mem_of_find?_eq_some found)
  · exact poised.uncaught unguarded (List.mem_of_find?_eq_some found)

/-! ### Constructs -/

/-- Everything but a guarded block finds flow in each of its fields. -/
theorem Poised.flowOf_of_ne (poised : Poised source choice node)
    (unguarded : node.kind ≠ .tryStatement) (field : Field) :
    Weighs choice (Outline.flowOf ((ofNode source node).part? field)) (node.loadAt choice field) :=
  poised.flowOf field fun _ found =>
    poised.uncaught unguarded (List.mem_of_find?_eq_some found)

/-- What follows `else` is the only statement of its clause. -/
theorem Poised.alternative (poised : Poised source choice node) (kind : node.kind = .ifStatement) :
    ∃ other : Option Node,
      ((ofNode source node).part? .alternative).bind (·.contents.head?) =
        other.map (ofNode source) ∧
      (other.map (Node.load choice)).getD 0 = node.loadAt choice .alternative ∧
      ∀ found ∈ other, Balanced source choice found ∧ found.kind ≠ .catchClause := by
  rw [ofNode_part?, Node.loadAt]
  cases found : node.child? .alternative with
  | none => exact ⟨none, rfl, rfl, fun _ none => by cases none⟩
  | some clause =>
    obtain ⟨clauseKind, single⟩ := poised.shaped.alternative kind clause found
    obtain ⟨other, alone⟩ := List.length_eq_one_iff.mp single
    have frame : clause.kind.isFrame = true := by rw [clauseKind]; rfl
    have inside := poised.childAt found (Node.isFunction_of_isFrame frame)
    have below : other ∈ clause.children := by
      refine Node.mem_children_of_mem_contents ?_
      rw [alone]
      exact List.mem_singleton_self other
    refine ⟨some other, ?_, ?_, ?_⟩
    · rw [Option.map_some, Option.bind_some, ofNode_contents, alone]
      rfl
    · rw [Option.map_some, Option.map_some, Option.getD_some, Option.getD_some,
        Node.load_of_isFrame frame, ← inside.shaped.sum_contents, alone, List.map_singleton,
        List.sum_singleton]
    · rintro _ ⟨⟩
      exact ⟨inside.children other below,
        inside.uncaught (by rw [clauseKind]; decide) below⟩

theorem Poised.conditional (poised : Poised source choice node)
    (kind : node.kind = .ifStatement) :
    Weighs choice ((ofNode source node).conditional source) (1 + node.loadBelow choice) := by
  have unguarded : node.kind ≠ .tryStatement := by rw [kind]; decide
  have total := @poised.shaped.sum_loadAt _ choice .condition [.consequence, .alternative]
    (by rw [Node.fields, kind]) (by rw [Node.isClause, kind]; rfl)
  obtain ⟨other, found, load, good⟩ := poised.alternative kind
  simp only [List.map_cons, List.map_nil, List.sum_cons, List.sum_nil, ← load] at total
  unfold Outline.conditional
  refine (poised.flowOf_of_ne unguarded .condition).bind fun before condition => ?_
  refine (poised.branch unguarded .consequence "then").bind ?_
  rintro ⟨opening, yes⟩ consequence
  dsimp only at consequence ⊢
  rw [found]
  cases other with
  | none =>
    refine .ok ?_
    simp only [Option.map_none, Option.getD_none] at total
    simp only [Flow.weight]
    omega
  | some other =>
    obtain ⟨balanced, uncaught⟩ := good other rfl
    simp only [Option.map_some, Option.getD_some, ofNode_node] at total ⊢
    split
    · refine (balanced.weighs uncaught).bind fun next alternative => .ok ?_
      simp only [Flow.weight]
      omega
    · refine (@branch_weighs _ _ (some other) "else" (fun _ same => Option.some.inj same ▸ balanced)
        fun _ same => Option.some.inj same ▸ uncaught).bind fun result alternative => .ok ?_
      simp only [Option.map_some, Option.getD_some] at alternative
      simp only [Flow.weight]
      omega

/-- Nothing but the body of a loop passes for it. -/
theorem Poised.sum_isLoopBody (poised : Poised source choice node)
    (kind : node.kind.isLoop = true) :
    ((node.children.filter node.isLoopBody).map (Node.load choice)).sum =
      node.loadAt choice .body := by
  cases found : node.child? .body with
  | none =>
    have nothing : node.children.filter node.isLoopBody = [] :=
      List.filter_eq_nil_iff.mpr fun child _ => by simp [Node.isLoopBody, found]
    rw [nothing, Node.loadAt, found]
    rfl
  | some body =>
    have same : node.isLoopBody = body.sameSpan := by
      funext child
      rw [Node.isLoopBody, found, Option.any_some]
    obtain ⟨only, alone⟩ := List.length_eq_one_iff.mp (poised.shaped.loopBody kind body found)
    have member : body ∈ node.children.filter body.sameSpan :=
      List.mem_filter.mpr ⟨List.mem_of_find?_eq_some found, by simp [Node.sameSpan]⟩
    rw [alone] at member
    rw [same, alone, Node.loadAt, found, List.mem_singleton.mp member, List.map_singleton,
      List.sum_singleton]
    rfl

/-- The body of a loop and its other named children have the load of all its children. -/
theorem Poised.sum_loop (poised : Poised source choice node) (kind : node.kind.isLoop = true) :
    node.loadAt choice .body +
        ((node.namedChildren.filter (!node.isLoopBody ·)).map (Node.load choice)).sum =
      node.loadBelow choice := by
  have named : ((node.namedChildren.filter (!node.isLoopBody ·)).map (Node.load choice)).sum =
      ((node.children.filter (!node.isLoopBody ·)).map (Node.load choice)).sum := by
    rw [Node.namedChildren, List.filter_comm]
    exact Node.sum_map_filter_of_eq_zero _ _ _ fun child member token =>
      poised.shaped.load_eq_zero (List.mem_filter.mp member).1 (.inl token)
  rw [named, ← poised.sum_isLoopBody kind, Node.loadBelow]
  simpa using List.sum_map_filter_add_sum_map_filter_not (node.isLoopBody ·) (Node.load choice)
    node.children

/-- A loop takes its body out of its children and threads all others before its decision. -/
theorem Poised.loop (poised : Poised source choice node) (kind : node.kind.isLoop = true) :
    Weighs choice ((ofNode source node).loop source) (1 + node.loadBelow choice) := by
  have unguarded : node.kind ≠ .tryStatement := by
    intro guarded
    rw [guarded] at kind
    cases kind
  have total := poised.sum_loop kind
  have head : (ofNode source node).namedParts.filter (fun part =>
      !((ofNode source node).part? .body).any (·.node.sameSpan part.node)) =
      (node.namedChildren.filter (!node.isLoopBody ·)).map (ofNode source) := by
    rw [ofNode_namedParts, ofNode_part?, List.filter_map]
    simp only [Function.comp_def, ofNode_node, Option.any_map]
    rfl
  unfold Outline.loop
  dsimp only
  rw [head]
  refine (poised.flowOfAll unguarded fun child member => ?_).bind fun before outside => ?_
  · exact (List.mem_filter.mp (List.mem_filter.mp member).1).1
  · refine (poised.flowOf_of_ne unguarded .body).bind fun inside body => .ok ?_
    simp only [Flow.weight]
    omega

theorem Poised.ternary (poised : Poised source choice node)
    (kind : node.kind = .ternaryExpression) :
    Weighs choice ((ofNode source node).ternary source) (1 + node.loadBelow choice) := by
  have unguarded : node.kind ≠ .tryStatement := by rw [kind]; decide
  have total := @poised.shaped.sum_loadAt _ choice .condition [.consequence, .alternative]
    (by rw [Node.fields, kind]) (by rw [Node.isClause, kind]; rfl)
  obtain ⟨test, found⟩ := Option.isSome_iff_exists.mp (poised.shaped.conditioned kind)
  have before := poised.flowOf_of_ne unguarded .condition
  simp only [List.map_cons, List.map_nil, List.sum_cons, List.sum_nil] at total
  rw [ofNode_part?, found] at before
  rw [Outline.ternary, ofNode_part?, found]
  refine before.bind fun before condition => ?_
  refine (poised.flowOf_of_ne unguarded .consequence).bind fun yes consequence => ?_
  refine (poised.flowOf_of_ne unguarded .alternative).bind fun no alternative => .ok ?_
  simp only [Flow.weight]
  omega

/-- A handler weighs one more than its body. -/
theorem Poised.rescue (poised : Poised source choice node) (kind : node.kind = .tryStatement) :
    Weighs choice (rescue source ((ofNode source node).part? .handler))
      (node.loadAt choice .handler) := by
  rw [ofNode_part?, Node.loadAt]
  cases found : node.child? .handler with
  | none => exact .ok rfl
  | some handler =>
    have caught := poised.shaped.handler kind handler found
    have inside := poised.childAt found (by simp [Node.isFunction, caught, Kind.isFunction])
    refine (inside.branch (by rw [caught]; decide) .body "catch body").bind
      fun result weight => .ok ?_
    rw [Flow.weight, weight, Option.map_some, Option.getD_some, Node.load_of_catchClause caught,
      Node.sum_childrenAt (inside.shaped.caught caught)]

theorem Poised.attempt (poised : Poised source choice node) (kind : node.kind = .tryStatement) :
    Weighs choice ((ofNode source node).attempt source) (node.loadBelow choice) := by
  have total := @poised.shaped.sum_loadAt _ choice .body [.handler, .finalizer]
    (by rw [Node.fields, kind]) (by rw [Node.isClause, kind]; rfl)
  simp only [List.map_cons, List.map_nil, List.sum_cons, List.sum_nil] at total
  have uncaught : ∀ field : Field, field ≠ .handler → ∀ child ∈ node.child? field,
      child.kind ≠ .catchClause := by
    intro field different child found caught
    have handles := poised.shaped.handles child (List.mem_of_find?_eq_some found) caught
    have own := List.find?_some found
    rw [handles.2] at own
    exact different (Option.some.inj (beq_iff_eq.mp own)).symm
  unfold Outline.attempt
  refine (poised.flowOf .body (uncaught _ (by decide))).bind fun inside body => ?_
  refine (poised.rescue kind).bind fun handled handler => ?_
  refine (poised.flowOf .finalizer (uncaught _ (by decide))).bind fun last finalizer => .ok ?_
  simp only [Flow.weight]
  omega

theorem Poised.terminal (poised : Poised source choice node)
    (kind : node.kind.isTerminal = true) :
    Weighs choice ((ofNode source node).terminal source) (node.loadBelow choice) := by
  have unguarded : node.kind ≠ .tryStatement := by
    intro guarded
    rw [guarded] at kind
    cases kind
  refine (poised.inner unguarded).bind fun inside weight => .ok ?_
  simp only [Flow.weight]
  omega

/-- An operator that may skip its right side; its token has no load. -/
theorem Poised.shortcut (poised : Poised source choice node)
    (kind : node.kind = .binaryExpression) (short : node.isShortcut = true) {token : Node}
    (found : node.child? .operator = some token) (idle : token.kind.isFrame = true)
    (sign : String) :
    Weighs choice (do
      let left ← Outline.flowOf ((ofNode source node).part? .left)
      let right ← Outline.flowOf ((ofNode source node).part? .right)
      pure (.seq left (.seq (.shortcut sign) right)))
      (1 + node.loadBelow choice) := by
  have unguarded : node.kind ≠ .tryStatement := by rw [kind]; decide
  have total := @poised.shaped.sum_loadAt _ choice .left [.operator, .right]
    (by simp only [Node.fields, kind, short, if_true]) (by rw [Node.isClause, kind]; rfl)
  have operator : node.loadAt choice .operator = 0 := by
    rw [Node.loadAt, found, Option.map_some, Option.getD_some, Node.load_of_isFrame idle,
      Node.loadBelow, poised.shaped.operator short token found]
    rfl
  simp only [List.map_cons, List.map_nil, List.sum_cons, List.sum_nil, operator] at total
  refine (poised.flowOf_of_ne unguarded .left).bind fun first left => ?_
  refine (poised.flowOf_of_ne unguarded .right).bind fun second right => .ok ?_
  simp only [Flow.weight]
  omega

theorem Poised.operation (poised : Poised source choice node)
    (kind : node.kind = .binaryExpression) :
    Weighs choice (ofNode source node).operation
      (node.weight choice + node.loadBelow choice) := by
  have weight : node.weight choice = if node.isShortcut then 1 else 0 := by
    simp [Node.weight, Node.isDecision, Node.decision?, kind]
  have whole (plain : node.isShortcut = false) : Weighs choice (ofNode source node).inner
      (node.weight choice + node.loadBelow choice) := by
    rw [weight, plain, if_neg Bool.false_ne_true, Nat.zero_add]
    exact poised.inner (by rw [kind]; decide)
  unfold Outline.operation
  rw [ofNode_part?]
  cases found : node.child? .operator with
  | none => exact whole (by simp [Node.isShortcut, Node.shortcut?, kind, found])
  | some token =>
    have shortcut : node.shortcut? = (Shortcut.ofKind? token.kind).map (·, token) := by
      simp [Node.shortcut?, kind, found]
    simp only [Option.map_some, Option.bind_some, ofNode_node]
    cases sign : Shortcut.ofKind? token.kind with
    | none => exact whole (by simp [Node.isShortcut, shortcut, sign])
    | some operator =>
      have idle : token.kind.isFrame = true := by
        unfold Shortcut.ofKind? at sign
        split at sign <;> simp_all [Kind.isFrame, Kind.isFunction]
      cases operator with
      | coalesce => exact whole (by simp [Node.isShortcut, shortcut, sign])
      | and | or =>
        have short : node.isShortcut = true := by simp [Node.isShortcut, shortcut, sign]
        rw [weight, if_pos short]
        exact poised.shortcut kind short found idle _

/-! ### Switches -/

theorem Clauses.count_ofList (clauses : List (String × Flow)) :
    (Clauses.ofList clauses).count = clauses.length := by
  induction clauses with
  | nil => rfl
  | cons clause rest inductionHypothesis =>
    rw [Clauses.ofList, Clauses.count, inductionHypothesis, List.length_cons]

theorem Clauses.weight_ofList (clauses : List (String × Flow)) :
    (Clauses.ofList clauses).weight choice = (clauses.map (·.2.weight choice)).sum := by
  induction clauses with
  | nil => rfl
  | cons clause rest inductionHypothesis =>
    rw [Clauses.ofList, Clauses.weight, inductionHypothesis, List.map_cons, List.sum_cons]

theorem Poised.clause (poised : Poised source choice node) (isClause : node.isClause = true) :
    Yields ((ofNode source node).clause source) fun result =>
      result.2.weight choice = node.load choice := by
  have kind : node.kind = .switchCase ∨ node.kind = .switchDefault := by
    simpa [Node.isClause] using isClause
  have unguarded : node.kind ≠ .tryStatement := by
    rcases kind with kind | kind <;> rw [kind] <;> decide
  have frame := Node.isFrame_of_isClause isClause
  have fields : node.fields = [.value, .body] := by
    rcases kind with kind | kind <;> rw [Node.fields, kind]
  have total := @poised.shaped.sum_fields _ choice (by rw [fields]; exact List.cons_ne_nil _ _)
  have value := @Node.sum_childrenAt choice _ _
    (poised.shaped.single .value (by simp [fields]) (by simp))
  simp only [fields, List.map_cons, List.map_nil, List.sum_cons, List.sum_nil, value] at total
  unfold Outline.clause
  dsimp only
  rw [ofNode_partsAt]
  refine (poised.flowOf_of_ne unguarded .value).bind fun first before => ?_
  refine (poised.flowOfAll unguarded fun child member => ?_).bind fun rest behind => .ok ?_
  · exact (List.mem_filter.mp member).1
  · simp only [Flow.weight]
    rw [Node.load_of_isFrame frame]
    omega

theorem Outline.ofNode_clauses (source : Source) (node : Node) :
    (ofNode source node).clauses = node.clauses.map (ofNode source) := by
  rw [Outline.clauses, ofNode_part?, Node.clauses]
  cases node.child? .body with
  | none => rfl
  | some body =>
    simp only [Option.map_some, ofNode_namedParts, List.filter_map, Function.comp_def]
    refine congrArg (List.map (ofNode source)) (List.filter_congr fun child _ => ?_)
    rw [Outline.isClause, ofNode_node, Node.isClause]

/-- The clauses of a switch have the load of its body. -/
theorem Poised.clauses (poised : Poised source choice node)
    (kind : node.kind = .switchStatement) :
    (∀ clause ∈ node.clauses, Poised source choice clause ∧ clause.isClause = true) ∧
      (node.clauses.map (Node.load choice)).sum = node.loadAt choice .body := by
  cases found : node.child? .body with
  | none =>
    rw [Node.clauses, Node.loadAt, found]
    exact ⟨fun _ member => absurd member List.not_mem_nil, rfl⟩
  | some body =>
    obtain ⟨bodyKind, all⟩ := poised.shaped.switchBody kind body found
    have frame : body.kind.isFrame = true := by rw [bodyKind]; rfl
    have inside := poised.childAt found (Node.isFunction_of_isFrame frame)
    rw [poised.shaped.clauses_eq_contents kind found, Node.loadAt, found, Option.map_some,
      Option.getD_some, Node.load_of_isFrame frame, inside.shaped.sum_contents]
    refine ⟨fun clause member => ⟨?_, all clause member⟩, rfl⟩
    have below := Node.mem_children_of_mem_contents member
    exact (inside.children clause below).poised
      (Node.isFunction_of_isFrame (Node.isFrame_of_isClause (all clause member)))

theorem Poised.switch (poised : Poised source choice node)
    (kind : node.kind = .switchStatement) :
    Weighs choice ((ofNode source node).switch source)
      (choice node.clauses.length + node.loadBelow choice) := by
  have unguarded : node.kind ≠ .tryStatement := by rw [kind]; decide
  have total := @poised.shaped.sum_loadAt _ choice .value [.body]
    (by rw [Node.fields, kind]) (by rw [Node.isClause, kind]; rfl)
  obtain ⟨each, sum⟩ := poised.clauses kind
  simp only [List.map_cons, List.map_nil, List.sum_cons, List.sum_nil, ← sum] at total
  unfold Outline.switch
  refine (poised.flowOf_of_ne unguarded .value).bind fun before value => ?_
  dsimp only
  rw [ofNode_clauses, List.mapM_map]
  refine (Yields.mapM fun clause member =>
    (each clause member).1.clause (each clause member).2).bind fun drawn weights => .ok ?_
  simp only [Flow.weight, Clauses.count_ofList, Clauses.weight_ofList, map_eq_of_forall₂ weights,
    ← weights.length_eq]
  omega

/-! ### The whole tree -/

theorem Poised.construct (poised : Poised source choice node)
    (isVisible : node.isFunction = false) (uncaught : node.kind ≠ .catchClause) :
    Weighs choice ((ofNode source node).construct source) (node.load choice) := by
  rw [Outline.construct, ofNode_node, if_neg (Bool.eq_false_iff.mp isVisible)]
  split
  next kind =>
    rw [Node.load_of_ne_catchClause isVisible uncaught,
      Node.weight_of_decision? (by rw [Node.decision?, kind]; rfl)]
    exact poised.conditional kind
  iterate 4
    next kind =>
      have loop : node.kind.isLoop = true := by rw [kind]; rfl
      rw [Node.load_of_ne_catchClause isVisible uncaught, Node.weight_of_isLoop loop]
      exact poised.loop loop
  next kind =>
    rw [Node.load_of_ne_catchClause isVisible uncaught, Node.weight, if_pos kind]
    exact poised.switch kind
  next kind =>
    rw [Node.load_of_ne_catchClause isVisible uncaught,
      Node.weight_of_decision? (by rw [Node.decision?, kind]; rfl)]
    exact poised.ternary kind
  next kind =>
    rw [Node.load_of_isFrame (by rw [kind]; rfl)]
    exact poised.attempt kind
  iterate 4
    next kind =>
      rw [Node.load_of_isFrame (by rw [kind]; rfl)]
      exact poised.terminal (by rw [kind]; rfl)
  next kind =>
    rw [Node.load_of_ne_catchClause isVisible uncaught]
    exact poised.operation kind
  next =>
    -- Not all of these are frames: the keyword `function` is a token with the kind of a function.
    have plain : node.isDecision = false := by
      unfold Node.isDecision Node.decision?
      split <;> simp_all [Node.isShortcut, Node.shortcut?]
    rw [Node.load_of_ne_catchClause isVisible uncaught, Node.weight_of_not_isDecision plain,
      Nat.zero_add]
    exact poised.inner ‹_›

mutual

/-- In a tree shaped as the grammar has it every node is balanced. -/
theorem ofNode_balanced (source : Source) (choice : Nat → Nat) : (node : Node) →
    (∀ below ∈ node.walk Node.isFunction, below.Shaped) → Balanced source choice node
  | ⟨tag, children⟩, shaped => by
    rw [Node.walk] at shaped
    split at shaped
    next isFunction => exact .function isFunction
    next isVisible =>
      have poised : Poised source choice ⟨tag, children⟩ :=
        ⟨shaped _ List.mem_cons_self, ofNodes_balanced source choice children fun below member =>
          shaped below (List.mem_cons_of_mem _ member)⟩
      refine .visible poised.shaped poised.children fun uncaught => ?_
      rw [ofNode_flow]
      exact poised.construct (Bool.eq_false_iff.mpr isVisible) uncaught

theorem ofNodes_balanced (source : Source) (choice : Nat → Nat) : (nodes : List Node) →
    (∀ below ∈ Node.walkAll Node.isFunction nodes, below.Shaped) →
    ∀ node ∈ nodes, Balanced source choice node
  | [], _ => fun _ member => absurd member List.not_mem_nil
  | first :: rest, shaped => by
    rw [Node.walkAll] at shaped
    intro node member
    rcases List.mem_cons.mp member with same | others
    · rw [same]
      exact ofNode_balanced source choice first fun below member =>
        shaped below (List.mem_append_left _ member)
    · exact ofNodes_balanced source choice rest (fun below member =>
        shaped below (List.mem_append_right _ member)) node others

end

end

end Tangle

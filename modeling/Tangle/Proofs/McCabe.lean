/-
This file compares the two measures of a function: the cyclomatic score, which
walks over everything below the function, and the graph, which only has what was
outlined. What the walk meets and the graph lacks stands in the heads of catch
clauses. Up to that the graph has a decision for each construct that is scored,
and its cyclomatic number is the score, save that a switch is drawn with one way
for each clause and scored by its cases.
-/

import Tangle.Proofs.Balance

namespace Tangle

namespace Node

/-! ### What is not drawn -/

/-- The children of a catch clause other than its body. -/
def head (node : Node) : List Node :=
  if node.kind == .catchClause then node.children.filter (·.tag.field != some .body) else []

/-- Everything in the head of a catch clause. -/
def inHead (node : Node) : List Node :=
  walkAll isFunction node.head

/-- Everything below a function that is drawn. -/
def drawnBelow (function : Node) : List Node :=
  function.children.flatMap drawn

/-- Everything below a function that is walked over but not drawn. -/
def hidden (function : Node) : List Node :=
  function.drawnBelow.flatMap inHead

theorem walkAll_eq_flatMap (cut : Node → Bool) (nodes : List Node) :
    walkAll cut nodes = nodes.flatMap (walk cut) := by
  induction nodes with
  | nil => rfl
  | cons node rest inductionHypothesis => rw [walkAll, inductionHypothesis, List.flatMap_cons]

theorem descendants_eq_walkAll (node : Node) :
    node.descendants true = walkAll isFunction node.children := by
  have cut : (fun below : Node => true && below.isFunction) = isFunction := by
    funext below
    exact Bool.true_and _
  rw [descendants, cut]

mutual

/-- A walk meets what is drawn and, with each catch clause, all of its head. -/
theorem walk_perm : (node : Node) →
    (node.walk isFunction).Perm (node.drawn.flatMap fun below => below :: below.inHead)
  | ⟨tag, children⟩ => by
    have each := walk_perm_of_mem children
    rw [walk, drawn]
    split
    next => exact .refl _
    next =>
      rw [walkAll_eq_flatMap, List.flatMap_cons, List.cons_append, inHead, head, kind]
      refine List.Perm.cons _ ?_
      cases caught : tag.kind == .catchClause with
      | false =>
        rw [if_neg Bool.false_ne_true, walkAll, List.nil_append, drawnAll_false, List.flatMap_assoc]
        exact List.Perm.flatMap_left children each
      | true =>
        rw [if_pos rfl, walkAll_eq_flatMap, drawnAll_true, List.flatMap_assoc]
        have parted := List.filter_append_perm (·.tag.field == some .body) children
        refine (parted.symm.flatMap_right _).trans ?_
        rw [List.flatMap_append]
        refine List.perm_append_comm.trans (.append (.refl _) ?_)
        exact List.Perm.flatMap_left _ fun child member => each child (List.mem_filter.mp member).1

theorem walk_perm_of_mem : (nodes : List Node) → ∀ node ∈ nodes,
    (node.walk isFunction).Perm (node.drawn.flatMap fun below => below :: below.inHead)
  | [], _, member => absurd member List.not_mem_nil
  | first :: rest, node, member => by
    rcases List.mem_cons.mp member with same | others
    · rw [same]
      exact walk_perm first
    · exact walk_perm_of_mem rest node others

end

/-- What is below a function is drawn or hidden. -/
theorem descendants_perm (function : Node) :
    (function.descendants true).Perm (function.drawnBelow ++ function.hidden) := by
  rw [descendants_eq_walkAll, walkAll_eq_flatMap, hidden]
  refine (List.Perm.flatMap_left _ fun child _ => child.walk_perm).trans ?_
  rw [← List.flatMap_assoc, ← drawnBelow]
  simpa using (List.map_append_flatMap_perm function.drawnBelow id inHead).symm

theorem kind_of_mem_inHead {node clause : Node} (inside : node ∈ clause.inHead) :
    clause.kind = .catchClause := by
  by_contra other
  rw [inHead, head, if_neg (by simpa using other)] at inside
  exact List.not_mem_nil inside

/-- Nothing is decided in the hidden parts of a function exactly when nothing is decided in the head
of any catch clause. -/
theorem hidden_plain_iff (function : Node) :
    (∀ node ∈ function.hidden, node.isDecision = false) ↔
      ∀ clause ∈ function.descendants true, ∀ node ∈ clause.inHead, node.isDecision = false := by
  constructor
  · intro plain clause member node inside
    rcases List.mem_append.mp ((descendants_perm function).mem_iff.mp member) with drawn | buried
    · exact plain node (List.mem_flatMap.mpr ⟨clause, drawn, inside⟩)
    · -- A catch clause is itself a decision, so none is hidden.
      have decides : clause.isDecision = true := by
        simp [isDecision, decision?, kind_of_mem_inHead inside]
      rw [plain clause buried] at decides
      cases decides
  · intro plain node buried
    obtain ⟨clause, drawn, inside⟩ := List.mem_flatMap.mp buried
    refine plain clause ?_ node inside
    exact (descendants_perm function).mem_iff.mpr (List.mem_append_left _ drawn)

/-! ### What is scored -/

/-- The `default` clauses of a switch. -/
def defaults (node : Node) : List Node :=
  node.clauses.filter (·.kind == .switchDefault)

/-- The `default` clauses that a switch has beyond the first. -/
def spareDefaults (node : Node) : Nat :=
  if node.kind == .switchStatement then node.defaults.length - 1 else 0

/-- Whether a node is a switch that may fall past all its cases. -/
def isOpenSwitch (node : Node) : Bool :=
  node.kind == .switchStatement && !node.caseClauses.isEmpty && node.defaults.isEmpty

theorem length_clauses (node : Node) :
    node.clauses.length = node.caseClauses.length + node.defaults.length := by
  rw [defaults, clauses, caseClauses]
  cases node.child? .body with
  | none => rfl
  | some body =>
    have cases : body.namedChildren.filter (·.kind == .switchCase) =
        (body.namedChildren.filter isClause).filter (!·.kind == .switchDefault) := by
      rw [List.filter_filter]
      refine List.filter_congr fun child _ => ?_
      by_cases kind : child.kind = .switchDefault
      · simp [isClause, kind]
      · simp [isClause, beq_false_of_ne kind]
    have parted := List.filter_append_perm (·.kind == .switchDefault)
      (body.namedChildren.filter isClause)
    dsimp only
    rw [cases, ← parted.length_eq, List.length_append, Nat.add_comm]

theorem decision?_of_switch {node : Node} (kind : node.kind = .switchStatement) :
    node.decision? = none := by
  rw [decision?, kind]

theorem decision?_ne_caseClause (node : Node) : node.decision? ≠ some .caseClause := by
  unfold decision?
  repeat' split
  all_goals simp

end Node

section Score

variable (source : Source) (node : Node)

/-- A switch adds a contributor for each case, another decision one, and nothing else adds any. -/
theorem decisions_cases :
    (node.kind = .switchStatement ∧ source.decisions node =
      node.caseClauses.map fun clause => source.contributor .caseClause 1 clause clause) ∨
    (node.kind ≠ .switchStatement ∧ node.isDecision = true ∧ ∃ construct ≠ Construct.caseClause,
      ∃ anchor, source.decisions node = [source.contributor construct 1 anchor node]) ∨
    (node.kind ≠ .switchStatement ∧ node.isDecision = false ∧ source.decisions node = []) := by
  by_cases switch : node.kind = .switchStatement
  · refine .inl ⟨switch, ?_⟩
    rw [Source.decisions, Node.decision?_of_switch switch, switch]
    rfl
  · refine .inr ?_
    rw [Source.decisions, Node.isDecision, beq_false_of_ne switch]
    cases decides : node.decision? with
    | some construct =>
      refine .inl ⟨switch, rfl, construct, ?_, node, rfl⟩
      rintro rfl
      exact node.decision?_ne_caseClause decides
    | none =>
      rw [Node.isShortcut]
      rcases node.shortcut? with _ | ⟨shortcut, token⟩
      · exact .inr ⟨switch, rfl, rfl⟩
      · cases shortcut with
        | coalesce => exact .inr ⟨switch, rfl, rfl⟩
        | and => exact .inl ⟨switch, rfl, .logical .and, by decide, token, rfl⟩
        | or => exact .inl ⟨switch, rfl, .logical .or, by decide, token, rfl⟩

theorem cost_of_mem_decisions {contributor : Contributor}
    (member : contributor ∈ source.decisions node) : contributor.cost = 1 := by
  obtain ⟨_, cases⟩ | ⟨_, _, _, _, _, one⟩ | ⟨_, _, none⟩ := decisions_cases source node
  · rw [cases] at member
    obtain ⟨clause, _, rfl⟩ := List.mem_map.mp member
    rfl
  · rw [one] at member
    rw [List.mem_singleton.mp member]
    rfl
  · rw [none] at member
    exact absurd member List.not_mem_nil

/-- A switch is drawn with a way for each clause and scored by its cases. -/
theorem length_decisions_add_spareDefaults :
    (source.decisions node).length + node.spareDefaults =
      node.weight (· - 1) + if node.isOpenSwitch then 1 else 0 := by
  rw [Node.spareDefaults, Node.weight, Node.isOpenSwitch]
  obtain ⟨kind, cases⟩ | ⟨kind, decides, _, _, _, one⟩ | ⟨kind, plain, none⟩ :=
    decisions_cases source node
  · have clauses := node.length_clauses
    rw [cases, List.length_map, if_pos (beq_iff_eq.mpr kind), if_pos kind, beq_iff_eq.mpr kind,
      Bool.true_and, clauses]
    cases node.caseClauses <;> cases node.defaults <;> simp
  · simp [kind, decides, one]
  · simp [kind, plain, none]

/-- Every decision is scored, if a switch counts once and not by its cases. -/
theorem length_decisions_filter :
    ((source.decisions node).filter (·.construct ≠ .caseClause)).length +
      (if node.kind == .switchStatement then 1 else 0) = if node.isDecision then 1 else 0 := by
  obtain ⟨kind, cases⟩ | ⟨kind, decides, construct, other, anchor, one⟩ | ⟨kind, plain, none⟩ :=
    decisions_cases source node
  · have decides : node.isDecision = true := by simp [Node.isDecision, kind]
    rw [cases, if_pos (beq_iff_eq.mpr kind), if_pos decides]
    simp [Source.contributor]
  · simp [kind, decides, one, other, Source.contributor]
  · simp [kind, plain, none]

end Score

/-! ### Many nodes -/

section Nodes

variable (source : Source) (nodes : List Node)

theorem totalCost_flatMap_decisions :
    totalCost (nodes.flatMap source.decisions) = (nodes.flatMap source.decisions).length := by
  have single : ∀ contributor ∈ nodes.flatMap source.decisions, contributor.cost = 1 := by
    intro contributor member
    obtain ⟨node, _, own⟩ := List.mem_flatMap.mp member
    exact cost_of_mem_decisions source node own
  generalize nodes.flatMap source.decisions = contributors at single
  induction contributors with
  | nil => rfl
  | cons contributor rest inductionHypothesis =>
    have others := inductionHypothesis fun other member =>
      single other (List.mem_cons_of_mem _ member)
    rw [totalCost] at others ⊢
    rw [List.foldr_cons, others, single contributor List.mem_cons_self, List.length_cons,
      Nat.add_comm]

theorem length_filter_eq_sum {α : Type} (keep : α → Bool) (items : List α) :
    (items.filter keep).length = (items.map fun item => if keep item then 1 else 0).sum := by
  induction items with
  | nil => rfl
  | cons item rest inductionHypothesis =>
    rw [List.map_cons, List.sum_cons, ← inductionHypothesis, List.filter_cons]
    split <;> simp [Nat.add_comm]

theorem length_flatMap_decisions :
    (nodes.flatMap source.decisions).length + (nodes.map Node.spareDefaults).sum =
      (nodes.map (Node.weight (· - 1))).sum + (nodes.filter Node.isOpenSwitch).length := by
  rw [List.length_flatMap, length_filter_eq_sum, ← List.sum_map_add, ← List.sum_map_add]
  refine congrArg List.sum (List.map_congr_left fun node _ => ?_)
  exact length_decisions_add_spareDefaults source node

theorem length_filter_flatMap_decisions :
    ((nodes.flatMap source.decisions).filter (·.construct ≠ .caseClause)).length +
        (nodes.filter (·.kind == .switchStatement)).length =
      (nodes.filter Node.isDecision).length := by
  rw [List.filter_flatMap, List.length_flatMap, length_filter_eq_sum, length_filter_eq_sum,
    ← List.sum_map_add]
  refine congrArg List.sum (List.map_congr_left fun node _ => ?_)
  exact length_decisions_filter source node

theorem sum_spareDefaults_eq_zero_iff :
    (nodes.map Node.spareDefaults).sum = 0 ↔
      ∀ node ∈ nodes, node.kind = .switchStatement → node.defaults.length ≤ 1 := by
  have each (node : Node) : node.spareDefaults = 0 ↔
      (node.kind = .switchStatement → node.defaults.length ≤ 1) := by
    rw [Node.spareDefaults]
    split <;> simp_all [Nat.sub_eq_zero_iff_le]
  rw [List.sum_eq_zero_iff_forall_eq_nat, List.forall_mem_map]
  exact forall₂_congr fun node _ => each node

theorem sum_map_weight_one :
    (nodes.map (Node.weight fun _ => 1)).sum = (nodes.filter Node.isDecision).length := by
  rw [length_filter_eq_sum]
  refine congrArg List.sum (List.map_congr_left fun node _ => ?_)
  rw [Node.weight]
  split
  next kind => simp [Node.isDecision, kind]
  next => rfl

end Nodes

/-! ### Drawn and scored -/

/-- The graph of a function weighs what is drawn below the function. -/
theorem flowGraph_weighs (source : Source) (function : Node) (choice : Nat → Nat)
    (isFunction : function.isFunction = true)
    (shaped : ∀ node ∈ function :: function.descendants true, node.Shaped) :
    ∃ flow : Flow, source.flowGraph function = .ok flow.graph ∧
      flow.weight choice = (function.drawnBelow.map (Node.weight choice)).sum := by
  have poised : Poised source choice function := by
    refine ⟨shaped function List.mem_cons_self, ?_⟩
    refine ofNodes_balanced source choice function.children fun below member => ?_
    rw [← Node.descendants_eq_walkAll] at member
    exact shaped below (List.mem_cons_of_mem _ member)
  have unguarded : function.kind ≠ .tryStatement := by
    intro guarded
    simp [Node.isFunction, guarded, Kind.isFunction] at isFunction
  obtain ⟨flow, drawn, weight⟩ := poised.inner unguarded
  refine ⟨flow, ?_, ?_⟩
  · rw [Source.flowGraph, if_pos isFunction, drawn]
    rfl
  · rw [weight, Node.drawnBelow, Node.sum_map_weight_flatMap_drawn, Node.loadBelow]

/-- Where nothing is decided in the heads of catch clauses, the score of a shaped function is the
cyclomatic number of its graph, plus one for each switch that may fall past all its cases. Spare
`default` clauses are ways in the graph that are not scored. -/
theorem flowGraph_cyclomaticNumber (source : Source) (function : Node)
    (isFunction : function.isFunction = true)
    (shaped : ∀ node ∈ function :: function.descendants true, node.Shaped)
    (heads : ∀ clause ∈ function.descendants true, ∀ node ∈ clause.inHead,
      node.isDecision = false) :
    ∃ graph, source.flowGraph function = .ok graph ∧
      ((source.cyclomatic function).total : Int) +
          ((function.descendants true).map Node.spareDefaults).sum =
        graph.cyclomaticNumber + ((function.descendants true).filter Node.isOpenSwitch).length ∧
      ((source.cyclomatic function).total =
          graph.cyclomaticNumber + ((function.descendants true).filter Node.isOpenSwitch).length ↔
        ∀ node ∈ function.descendants true, node.kind = .switchStatement →
          node.defaults.length ≤ 1) := by
  obtain ⟨flow, drawn, weight⟩ := flowGraph_weighs source function (· - 1) isFunction shaped
  have number := flow.graph_cyclomaticNumber
  have scored := length_flatMap_decisions source (function.descendants true)
  have total : (source.cyclomatic function).total =
      1 + ((function.descendants true).flatMap source.decisions).length := by
    rw [Source.cyclomatic, totalCost_flatMap_decisions]
  have parted := (function.descendants_perm.map (Node.weight (· - 1))).sum_eq
  have idle : (function.hidden.map (Node.weight (· - 1))).sum = 0 := by
    refine List.sum_eq_zero fun weight member => ?_
    obtain ⟨node, buried, rfl⟩ := List.mem_map.mp member
    exact Node.weight_of_not_isDecision (function.hidden_plain_iff.mpr heads node buried)
  rw [List.map_append, List.sum_append, idle, ← weight] at parted
  refine ⟨flow.graph, drawn, by omega, ?_⟩
  rw [← sum_spareDefaults_eq_zero_iff]
  omega

/-- A token that covers no text. -/
def Node.token (kind : Kind) (field : Option Field) : Node :=
  ⟨⟨0, kind, false, false, 0, 0, field⟩, []⟩

/-- A name that stands in the given field. -/
def Node.identifier (field : Option Field) : Node :=
  .named (.other "identifier") field []

/-- Two names joined by `&&`. -/
def Node.conjunction (field : Option Field) : Node :=
  .named .binaryExpression field
    [.identifier (some .left), .token .logicalAnd (some .operator), .identifier (some .right)]

/-- A conditional with all its parts behind a loop, a switch without and one with a `default`, a
guarded block and a nested function. -/
def wholeConstructs : Node :=
  .named .functionDeclaration none [.token .function none, .named .statementBlock (some .body) [
    .named .whileStatement none [
      .token (.other "while") none,
      .named .parenthesizedExpression (some .condition) [.conjunction none],
      .named .statementBlock (some .body) [.named .breakStatement none []]],
    .named .ifStatement none [
      .named .parenthesizedExpression (some .condition) [.identifier none],
      .named .returnStatement (some .consequence) [.named .ternaryExpression none [
        .identifier (some .condition), .identifier (some .consequence),
        .conjunction (some .alternative)]],
      .named (.other "else_clause") (some .alternative) [
        .named .comment none [],
        .named .ifStatement none [.identifier (some .condition),
          .named .statementBlock (some .consequence) []]]],
    .named .switchStatement none [.identifier (some .value), .named (.other "switch_body")
      (some .body) [
        .named .switchCase none [.conjunction (some .value), .identifier (some .body)],
        .named .switchCase none [.identifier (some .value)]]],
    .named .switchStatement none [.identifier (some .value), .named (.other "switch_body")
      (some .body) [
        .named .switchCase none [.identifier (some .value)],
        .named .switchDefault none [.identifier (some .body), .identifier (some .body)]]],
    .named .tryStatement none [
      .named .statementBlock (some .body) [.identifier none],
      .named .catchClause (some .handler) [.identifier (some .parameter),
        .named .statementBlock (some .body) [.conjunction none]]],
    .named .arrowFunction none [.named .ifStatement (some .body) []]]]

theorem flowGraph_cyclomaticNumber_wholeConstructs :
    wholeConstructs.isFunction = true ∧
    (∀ node ∈ wholeConstructs :: wholeConstructs.descendants true, node.Shaped) ∧
    (∀ clause ∈ wholeConstructs.descendants true, ∀ node ∈ clause.inHead,
      node.isDecision = false) ∧
    ∃ graph, Source.blank.flowGraph wholeConstructs = .ok graph ∧
      (Source.blank.cyclomatic wholeConstructs).total = graph.cyclomaticNumber + 1 := by
  have shaped : ∀ node ∈ wholeConstructs :: wholeConstructs.descendants true, node.Shaped := by
    decide
  have heads : ∀ clause ∈ wholeConstructs.descendants true, ∀ node ∈ clause.inHead,
      node.isDecision = false := by
    decide
  obtain ⟨graph, drawn, _, agrees⟩ :=
    flowGraph_cyclomaticNumber Source.blank wholeConstructs (by decide) shaped heads
  exact ⟨by decide, shaped, heads, graph, drawn, agrees.mpr (by decide)⟩

/-- The constructs of a function that are scored, with one for each switch in place of its cases. -/
def Source.scoredConstructs (source : Source) (function : Node) : Nat :=
  ((source.cyclomatic function).contributors.filter (·.construct ≠ .caseClause)).length +
    ((function.descendants true).filter (·.kind == .switchStatement)).length

/-- The graph of a shaped function has as many decisions as constructs are scored, less those in the
heads of catch clauses; so the two numbers agree exactly when nothing is decided there. -/
theorem flowGraph_decisions (source : Source) (function : Node)
    (isFunction : function.isFunction = true)
    (shaped : ∀ node ∈ function :: function.descendants true, node.Shaped) :
    ∃ graph, source.flowGraph function = .ok graph ∧
      graph.decisions.length + (function.hidden.filter Node.isDecision).length =
        source.scoredConstructs function ∧
      (graph.decisions.length = source.scoredConstructs function ↔
        ∀ clause ∈ function.descendants true, ∀ node ∈ clause.inHead, node.isDecision = false) := by
  obtain ⟨flow, drawn, weight⟩ := flowGraph_weighs source function (fun _ => 1) isFunction shaped
  have scored : source.scoredConstructs function =
      ((function.descendants true).filter Node.isDecision).length :=
    length_filter_flatMap_decisions source (function.descendants true)
  have parted := ((function.descendants_perm).filter Node.isDecision).length_eq
  rw [List.filter_append, List.length_append] at parted
  rw [sum_map_weight_one, ← flow.graph_decisions] at weight
  refine ⟨flow.graph, drawn, by omega, ?_⟩
  rw [← function.hidden_plain_iff]
  have none : (function.hidden.filter Node.isDecision).length = 0 ↔
      ∀ node ∈ function.hidden, node.isDecision = false := by
    simp [List.filter_eq_nil_iff]
  rw [← none]
  omega

/-- A guarded block whose handler takes a pattern with the conjunction of two names in it. -/
def conjunctionInHead : Node :=
  .named .functionDeclaration none [.named .statementBlock (some .body) [
    .named .tryStatement none [
      .named .statementBlock (some .body) [.identifier none],
      .named .catchClause (some .handler) [
        .named (.other "object_pattern") (some .parameter) [
          .named (.other "object_assignment_pattern") none
            [.identifier (some .left), .conjunction (some .right)]],
        .named .statementBlock (some .body) []]]]]

/-- The conjunction is scored but has no decision in the graph. -/
theorem flowGraph_decisions_conjunctionInHead :
    conjunctionInHead.isFunction = true ∧
    (∀ node ∈ conjunctionInHead :: conjunctionInHead.descendants true, node.Shaped) ∧
    ∃ graph, Source.blank.flowGraph conjunctionInHead = .ok graph ∧
      graph.decisions.length + 1 = Source.blank.scoredConstructs conjunctionInHead := by
  have shaped : ∀ node ∈ conjunctionInHead :: conjunctionInHead.descendants true, node.Shaped := by
    decide
  obtain ⟨graph, drawn, lost, _⟩ :=
    flowGraph_decisions Source.blank conjunctionInHead (by decide) shaped
  exact ⟨by decide, shaped, graph, drawn, lost⟩

end Tangle

/-
This file follows a syntax tree to the tests of its flow. Outlining visits some of
the nodes below a function, and it finds them by their fields. What is visited has
flow of its own, and the tests of that flow stand among those of the function, in
order. For conditionals that follow each other by `else` this says that each of
them has a test, one behind the other, however long the chain is and whatever else
is decided in between.
-/

import Tangle.Proofs.Balance

namespace Tangle

/-! ### Results taken apart -/

section

variable {α β : Type}

theorem exists_of_bind_eq_ok {result : Except NodeError α} {next : α → Except NodeError β}
    {value : β} (given : result >>= next = .ok value) :
    ∃ first, result = .ok first ∧ next first = .ok value := by
  cases result with
  | error fault => cases given
  | ok first => exact ⟨first, rfl, given⟩

theorem exists_of_map_eq_ok {result : Except NodeError α} {change : α → β} {value : β}
    (given : result.map change = .ok value) :
    ∃ first, result = .ok first ∧ change first = value := by
  cases result with
  | error fault => cases given
  | ok first =>
    cases given
    exact ⟨first, rfl, rfl⟩

theorem forall₂_of_mapM_eq_ok {items : List α} {action : α → Except NodeError β}
    {values : List β} (given : items.mapM action = .ok values) :
    List.Forall₂ (fun item value => action item = .ok value) items values := by
  induction items generalizing values with
  | nil =>
    cases given
    exact .nil
  | cons item rest inductionHypothesis =>
    rw [List.mapM_cons] at given
    obtain ⟨first, own, given⟩ := exists_of_bind_eq_ok given
    obtain ⟨others, behind, given⟩ := exists_of_bind_eq_ok given
    cases given
    exact .cons own (inductionHypothesis behind)

end

/-! ### What is visited -/

namespace Node

/-- What is visited of a branch. A statement that leaves the block is shown itself, so that only
what is in it is visited. -/
def branchVisits (node : Node) : List Node :=
  match node.statements with
  | [] => []
  | first :: rest => if first.kind.isTerminal then first.namedChildren ++ rest else first :: rest

/-- The statement that follows `else`. -/
def elseStatement? (node : Node) : Option Node :=
  (node.child? .alternative).bind (·.contents.head?)

def elseVisits (node : Node) : List Node :=
  match node.elseStatement? with
  | none => []
  | some other => if other.kind = .ifStatement then [other] else other.branchVisits

def visitsAt (node : Node) (field : Field) : List Node :=
  (node.child? field).toList

def branchVisitsAt (node : Node) (field : Field) : List Node :=
  (node.visitsAt field).flatMap branchVisits

/-- The nodes that are visited on a visit to a node, in order. -/
def visits (node : Node) : List Node :=
  if node.isFunction then []
  else
    match node.kind with
    | .ifStatement =>
      node.visitsAt .condition ++ (node.branchVisitsAt .consequence ++ node.elseVisits)
    | .whileStatement | .doStatement | .forStatement | .forInStatement =>
      node.namedChildren.filter (!node.isLoopBody ·) ++ node.visitsAt .body
    | .switchStatement =>
      node.visitsAt .value ++
        node.clauses.flatMap fun clause => clause.visitsAt .value ++ clause.childrenAt .body
    | .ternaryExpression =>
      node.visitsAt .condition ++ (node.visitsAt .consequence ++ node.visitsAt .alternative)
    | .tryStatement =>
      node.visitsAt .body ++
        ((node.visitsAt .handler).flatMap (branchVisitsAt · .body) ++ node.visitsAt .finalizer)
    | .binaryExpression =>
      if node.isShortcut then node.visitsAt .left ++ node.visitsAt .right else node.namedChildren
    | _ => node.namedChildren

/-- The nodes that are visited when a function is outlined. -/
inductive Visited (function : Node) : Node → Prop where
  | child {node : Node} (member : node ∈ function.namedChildren) : Visited function node
  | part {node part : Node} (visited : Visited function node) (member : part ∈ node.visits) :
    Visited function part

/-- Conditionals in a function that follow each other by `else`. -/
structure Chained (function : Node) (chain : List Node) : Prop where
  visited : ∀ first ∈ chain.head?, function.Visited first
  conditionals : ∀ node ∈ chain, node.kind = .ifStatement
  linked : chain.IsChain fun node next => node.elseStatement? = some next

end Node

/-! ### Tests in order -/

namespace Flow

theorem tests_ofList (flows : List Flow) :
    (ofList flows).tests = flows.flatMap tests := by
  induction flows with
  | nil => rfl
  | cons flow rest inductionHypothesis =>
    rw [ofList, tests, inductionHypothesis, List.flatMap_cons]

theorem tests_sublist_choose (test : String) (clauses : Clauses) :
    clauses.tests.Sublist (choose test clauses).tests := by
  cases clauses with
  | nil => exact List.nil_sublist _
  | cons text body rest => exact List.sublist_cons_self _ _

end Flow

/-- The nodes have flow, and the tests of that flow stand in order among the given ones. -/
def Threads (source : Source) (nodes : List Node) (tests : List Test) : Prop :=
  ∃ flows,
    List.Forall₂ (fun node flow => (Outline.ofNode source node).flow = .ok flow) nodes flows ∧
    (flows.flatMap Flow.tests).Sublist tests

namespace Threads

variable {source : Source} {nodes others : List Node} {tests more : List Test}

theorem nil (tests : List Test) : Threads source [] tests :=
  ⟨[], .nil, List.nil_sublist tests⟩

theorem append (first : Threads source nodes tests) (second : Threads source others more) :
    Threads source (nodes ++ others) (tests ++ more) := by
  obtain ⟨flows, each, among⟩ := first
  obtain ⟨behind, rest, within⟩ := second
  refine ⟨flows ++ behind, List.rel_append each rest, ?_⟩
  rw [List.flatMap_append]
  exact among.append within

theorem weaken (threads : Threads source nodes tests) (among : tests.Sublist more) :
    Threads source nodes more := by
  obtain ⟨flows, each, within⟩ := threads
  exact ⟨flows, each, within.trans among⟩

theorem cons (threads : Threads source nodes tests) (test : Test) :
    Threads source nodes (test :: tests) :=
  threads.weaken (List.sublist_cons_self test tests)

theorem single {node : Node} {flow : Flow} (drawn : (Outline.ofNode source node).flow = .ok flow) :
    Threads source [node] flow.tests := by
  refine ⟨[flow], .cons drawn .nil, ?_⟩
  rw [List.flatMap_singleton]

theorem mem (threads : Threads source nodes tests) {node : Node} (member : node ∈ nodes) :
    ∃ flow, (Outline.ofNode source node).flow = .ok flow ∧ flow.tests.Sublist tests := by
  obtain ⟨flows, each, among⟩ := threads
  induction each with
  | nil => cases member
  | @cons first flow _ _ drawn _ inductionHypothesis =>
    rw [List.flatMap_cons] at among
    rcases List.mem_cons.mp member with rfl | behind
    · exact ⟨flow, drawn, (List.sublist_append_left _ _).trans among⟩
    · exact inductionHypothesis behind ((List.sublist_append_right _ _).trans among)

end Threads

namespace Outline

variable {source : Source} {node : Node} {flow : Flow}

theorem flowOf_threads {field : Field}
    (drawn : flowOf ((ofNode source node).part? field) = .ok flow) :
    Threads source (node.visitsAt field) flow.tests := by
  rw [ofNode_part?] at drawn
  rw [Node.visitsAt]
  cases found : node.child? field with
  | none => exact .nil _
  | some child =>
    rw [found] at drawn
    exact .single drawn

theorem flowOfAll_threads {nodes : List Node}
    (drawn : flowOfAll (nodes.map (ofNode source)) = .ok flow) :
    Threads source nodes flow.tests := by
  rw [flowOfAll, List.mapM_map] at drawn
  obtain ⟨flows, each, rfl⟩ := exists_of_map_eq_ok drawn
  refine ⟨flows, forall₂_of_mapM_eq_ok each, ?_⟩
  rw [Flow.tests_ofList]

theorem inner_threads (drawn : (ofNode source node).inner = .ok flow) :
    Threads source node.namedChildren flow.tests := by
  rw [ofNode_inner] at drawn
  exact flowOfAll_threads drawn

theorem branch_threads {fallback opening : String}
    (drawn : branch source (some (ofNode source node)) fallback = .ok (opening, flow)) :
    Threads source node.branchVisits flow.tests := by
  simp only [branch, Option.map_some, Option.getD_some, ofNode_statements] at drawn
  rw [Node.branchVisits]
  cases statements : node.statements with
  | nil => exact .nil _
  | cons first rest =>
    simp only [statements, List.map_cons, ofNode_node] at drawn
    dsimp only
    split at drawn
    next terminal =>
      obtain ⟨inside, own, drawn⟩ := exists_of_bind_eq_ok drawn
      obtain ⟨behind, others, drawn⟩ := exists_of_bind_eq_ok drawn
      obtain ⟨_, rfl⟩ := Prod.mk.inj (Except.ok.inj drawn)
      rw [if_pos terminal]
      exact (inner_threads own).append (flowOfAll_threads others)
    next other =>
      obtain ⟨all, own, drawn⟩ := exists_of_bind_eq_ok drawn
      obtain ⟨_, rfl⟩ := Prod.mk.inj (Except.ok.inj drawn)
      rw [if_neg other]
      exact @flowOfAll_threads _ _ (first :: rest) own

theorem branch_threads_at {field : Field} {fallback opening : String}
    (drawn : branch source ((ofNode source node).part? field) fallback = .ok (opening, flow)) :
    Threads source (node.branchVisitsAt field) flow.tests := by
  rw [ofNode_part?] at drawn
  rw [Node.branchVisitsAt, Node.visitsAt]
  cases found : node.child? field with
  | none => exact .nil _
  | some child =>
    rw [found] at drawn
    rw [Option.toList_some, List.flatMap_singleton]
    exact branch_threads drawn

/-! ### Constructs -/

theorem ofNode_loopHead (source : Source) (node : Node) :
    (ofNode source node).namedParts.filter (fun part =>
      !((ofNode source node).part? .body).any (·.node.sameSpan part.node)) =
      (node.namedChildren.filter (!node.isLoopBody ·)).map (ofNode source) := by
  rw [ofNode_namedParts, ofNode_part?, List.filter_map]
  simp only [Function.comp_def, ofNode_node, Option.any_map]
  rfl

/-- The text of a conditional. -/
def conditionText (source : Source) (node : Node) : String :=
  "if (" ++ conditionLabel source ((ofNode source node).part? .condition) 30 ++ ")"

/-- A conditional ends with its branch, goes on with the next conditional or has another branch. -/
theorem conditional_cases (drawn : (ofNode source node).conditional source = .ok flow) :
    ∃ before opening yes, flowOf ((ofNode source node).part? .condition) = .ok before ∧
      branch source ((ofNode source node).part? .consequence) "then" = .ok (opening, yes) ∧
      ((node.elseStatement? = none ∧
          flow = .seq before (.optional (conditionText source node) .condition opening yes)) ∨
        (∃ other next, node.elseStatement? = some other ∧ other.kind = .ifStatement ∧
          (ofNode source other).flow = .ok next ∧
          flow = .seq before (.chain (conditionText source node) opening yes next)) ∨
        (∃ other otherwise no, node.elseStatement? = some other ∧ other.kind ≠ .ifStatement ∧
          branch source (some (ofNode source other)) "else" = .ok (otherwise, no) ∧
          flow = .seq before (.either (conditionText source node) opening yes otherwise no))) := by
  have alternative : ((ofNode source node).part? .alternative).bind (·.contents.head?) =
      node.elseStatement?.map (ofNode source) := by
    rw [ofNode_part?, Node.elseStatement?]
    cases node.child? .alternative with
    | none => rfl
    | some clause =>
      simp only [Option.map_some, Option.bind_some, ofNode_contents, List.head?_map]
  unfold conditional at drawn
  obtain ⟨before, condition, drawn⟩ := exists_of_bind_eq_ok drawn
  obtain ⟨⟨opening, yes⟩, consequence, drawn⟩ := exists_of_bind_eq_ok drawn
  refine ⟨before, opening, yes, condition, consequence, ?_⟩
  simp only [alternative] at drawn
  cases held : node.elseStatement? with
  | none =>
    rw [held] at drawn
    cases drawn
    exact .inl ⟨rfl, rfl⟩
  | some other =>
    simp only [held, Option.map_some, ofNode_node] at drawn
    split at drawn
    next kind =>
      obtain ⟨next, own, drawn⟩ := exists_of_bind_eq_ok drawn
      cases drawn
      exact .inr (.inl ⟨other, next, rfl, beq_iff_eq.mp kind, own, rfl⟩)
    next kind =>
      obtain ⟨⟨otherwise, no⟩, own, drawn⟩ := exists_of_bind_eq_ok drawn
      cases drawn
      exact .inr (.inr ⟨other, otherwise, no, rfl, by simpa using kind, own, rfl⟩)

theorem conditional_threads (drawn : (ofNode source node).conditional source = .ok flow) :
    Threads source (node.visitsAt .condition ++
      (node.branchVisitsAt .consequence ++ node.elseVisits)) flow.tests := by
  obtain ⟨before, opening, yes, condition, consequence, cases⟩ := conditional_cases drawn
  rw [Node.elseVisits]
  rcases cases with ⟨held, rfl⟩ | ⟨other, next, held, kind, own, rfl⟩ |
    ⟨other, otherwise, no, held, kind, own, rfl⟩
  · rw [held, List.append_nil]
    exact (flowOf_threads condition).append ((branch_threads_at consequence).cons _)
  · rw [held]
    dsimp only
    rw [if_pos kind]
    exact (flowOf_threads condition).append
      (((branch_threads_at consequence).append (.single own)).cons _)
  · rw [held]
    dsimp only
    rw [if_neg kind]
    exact (flowOf_threads condition).append
      (((branch_threads_at consequence).append (branch_threads own)).cons _)

theorem loop_threads (drawn : (ofNode source node).loop source = .ok flow) :
    Threads source (node.namedChildren.filter (!node.isLoopBody ·) ++ node.visitsAt .body)
      flow.tests := by
  unfold loop at drawn
  obtain ⟨head, before, drawn⟩ := exists_of_bind_eq_ok drawn
  obtain ⟨inside, body, drawn⟩ := exists_of_bind_eq_ok drawn
  cases drawn
  rw [ofNode_loopHead] at before
  exact (flowOfAll_threads before).append ((flowOf_threads body).cons _)

theorem clause_threads {text : String}
    (drawn : (ofNode source node).clause source = .ok (text, flow)) :
    Threads source (node.visitsAt .value ++ node.childrenAt .body) flow.tests := by
  unfold clause at drawn
  obtain ⟨first, value, drawn⟩ := exists_of_bind_eq_ok drawn
  obtain ⟨rest, body, drawn⟩ := exists_of_bind_eq_ok drawn
  cases drawn
  rw [ofNode_partsAt] at body
  exact (flowOf_threads value).append (flowOfAll_threads body)

theorem clauses_threads {clauses : List Node} {drawn : List (String × Flow)}
    (each : List.Forall₂ (fun clause result =>
      (ofNode source clause).clause source = .ok result) clauses drawn) :
    Threads source (clauses.flatMap fun clause => clause.visitsAt .value ++ clause.childrenAt .body)
      (Clauses.ofList drawn).tests := by
  induction each with
  | nil => exact .nil _
  | cons own _ inductionHypothesis => exact (clause_threads own).append inductionHypothesis

theorem switch_threads (drawn : (ofNode source node).switch source = .ok flow) :
    Threads source (node.visitsAt .value ++
      node.clauses.flatMap fun clause => clause.visitsAt .value ++ clause.childrenAt .body)
      flow.tests := by
  unfold switch at drawn
  obtain ⟨before, value, drawn⟩ := exists_of_bind_eq_ok drawn
  obtain ⟨ways, clauses, drawn⟩ := exists_of_bind_eq_ok drawn
  cases drawn
  rw [ofNode_clauses, List.mapM_map] at clauses
  exact (flowOf_threads value).append
    ((clauses_threads (forall₂_of_mapM_eq_ok clauses)).weaken (Flow.tests_sublist_choose _ _))

theorem ternary_threads (drawn : (ofNode source node).ternary source = .ok flow) :
    Threads source (node.visitsAt .condition ++
      (node.visitsAt .consequence ++ node.visitsAt .alternative)) flow.tests := by
  unfold ternary at drawn
  split at drawn
  next => cases drawn
  next condition found =>
    obtain ⟨before, own, drawn⟩ := exists_of_bind_eq_ok drawn
    obtain ⟨yes, consequence, drawn⟩ := exists_of_bind_eq_ok drawn
    obtain ⟨no, alternative, drawn⟩ := exists_of_bind_eq_ok drawn
    cases drawn
    have test : flowOf ((ofNode source node).part? .condition) = .ok before := by
      rw [found]
      exact own
    exact (flowOf_threads test).append
      (((flowOf_threads consequence).append (flowOf_threads alternative)).cons _)

theorem rescue_threads
    (drawn : rescue source ((ofNode source node).part? .handler) = .ok flow) :
    Threads source ((node.visitsAt .handler).flatMap (Node.branchVisitsAt · .body)) flow.tests := by
  rw [ofNode_part?] at drawn
  rw [Node.visitsAt]
  cases found : node.child? .handler with
  | none => exact .nil _
  | some handler =>
    rw [found] at drawn
    obtain ⟨⟨opening, caught⟩, body, drawn⟩ := exists_of_bind_eq_ok drawn
    cases drawn
    rw [Option.toList_some, List.flatMap_singleton]
    exact (branch_threads_at body).cons _

theorem attempt_threads (drawn : (ofNode source node).attempt source = .ok flow) :
    Threads source (node.visitsAt .body ++
      ((node.visitsAt .handler).flatMap (Node.branchVisitsAt · .body) ++ node.visitsAt .finalizer))
      flow.tests := by
  unfold attempt at drawn
  obtain ⟨inside, body, drawn⟩ := exists_of_bind_eq_ok drawn
  obtain ⟨handled, handler, drawn⟩ := exists_of_bind_eq_ok drawn
  obtain ⟨last, finalizer, drawn⟩ := exists_of_bind_eq_ok drawn
  cases drawn
  exact (flowOf_threads body).append ((rescue_threads handler).append (flowOf_threads finalizer))

theorem terminal_threads (drawn : (ofNode source node).terminal source = .ok flow) :
    Threads source node.namedChildren flow.tests := by
  obtain ⟨inside, own, drawn⟩ := exists_of_bind_eq_ok drawn
  cases drawn
  exact (Threads.nil []).append (inner_threads own)

theorem operation_threads (kind : node.kind = .binaryExpression)
    (drawn : (ofNode source node).operation = .ok flow) :
    Threads source (if node.isShortcut then node.visitsAt .left ++ node.visitsAt .right
      else node.namedChildren) flow.tests := by
  have whole (plain : node.isShortcut = false) (drawn : (ofNode source node).inner = .ok flow) :
      Threads source (if node.isShortcut then node.visitsAt .left ++ node.visitsAt .right
        else node.namedChildren) flow.tests := by
    rw [plain]
    exact inner_threads drawn
  have shortcut : node.shortcut? = (node.child? .operator).bind fun token =>
      (Shortcut.ofKind? token.kind).map (·, token) := by
    rw [Node.shortcut?, kind]
    rfl
  unfold operation at drawn
  rw [ofNode_part?] at drawn
  cases found : node.child? .operator with
  | none =>
    rw [found] at drawn
    exact whole (by rw [Node.isShortcut, shortcut, found]; rfl) drawn
  | some token =>
    simp only [found, Option.map_some, Option.bind_some, ofNode_node] at drawn
    rw [found, Option.bind_some] at shortcut
    cases sign : Shortcut.ofKind? token.kind with
    | none =>
      rw [sign] at drawn
      exact whole (by rw [Node.isShortcut, shortcut, sign]; rfl) drawn
    | some operator =>
      rw [sign] at drawn
      cases operator with
      | coalesce => exact whole (by rw [Node.isShortcut, shortcut, sign]; rfl) drawn
      | and | or =>
        have short : node.isShortcut = true := by rw [Node.isShortcut, shortcut, sign]; rfl
        obtain ⟨left, first, drawn⟩ := exists_of_bind_eq_ok drawn
        obtain ⟨right, second, drawn⟩ := exists_of_bind_eq_ok drawn
        cases drawn
        rw [if_pos short]
        exact (flowOf_threads first).append ((flowOf_threads second).cons _)

/-- What is visited on a visit to a node stands in order in the flow of the node. -/
theorem visits_threads (drawn : (ofNode source node).flow = .ok flow) :
    Threads source node.visits flow.tests := by
  rw [ofNode_flow, construct, ofNode_node] at drawn
  rw [Node.visits]
  split at drawn
  next isFunction =>
    rw [if_pos isFunction]
    exact .nil _
  next isVisible =>
    rw [if_neg isVisible]
    split at drawn <;> rename_i kind
    · rw [kind]
      exact conditional_threads drawn
    iterate 4
      · rw [kind]
        exact loop_threads drawn
    · rw [kind]
      exact switch_threads drawn
    · rw [kind]
      exact ternary_threads drawn
    · rw [kind]
      exact attempt_threads drawn
    iterate 4
      · rw [kind]
        exact terminal_threads drawn
    · simp only [kind]
      exact operation_threads kind drawn
    · split
      iterate 9 next kind => exact absurd kind ‹_›
      next => exact inner_threads drawn

/-- Whatever is visited in a function has flow, and the tests of it are among those of the
function. -/
theorem visited_tests {function : Node} {whole : Flow}
    (drawn : (ofNode source function).inner = .ok whole) (visited : function.Visited node) :
    ∃ flow, (ofNode source node).flow = .ok flow ∧ flow.tests.Sublist whole.tests := by
  induction visited with
  | child member => exact (inner_threads drawn).mem member
  | part _ member inductionHypothesis =>
    obtain ⟨around, own, among⟩ := inductionHypothesis
    obtain ⟨flow, inside, within⟩ := (visits_threads own).mem member
    exact ⟨flow, inside, within.trans among⟩

/-! ### Chains of conditionals -/

theorem flow_of_ifStatement (source : Source) (kind : node.kind = .ifStatement) :
    (ofNode source node).flow = (ofNode source node).conditional source := by
  have visible : node.isFunction ≠ true := by simp [Node.isFunction, kind, Kind.isFunction]
  rw [ofNode_flow, construct, ofNode_node, if_neg visible, kind]

/-- The test of a conditional. -/
def conditionTest (source : Source) (node : Node) : Test :=
  ⟨conditionText source node, some "true"⟩

theorem conditionTest_mem (drawn : (ofNode source node).conditional source = .ok flow) :
    conditionTest source node ∈ flow.tests := by
  obtain ⟨before, opening, yes, _, _, cases⟩ := conditional_cases drawn
  rcases cases with ⟨_, rfl⟩ | ⟨other, next, _, _, _, rfl⟩ | ⟨other, otherwise, no, _, _, _, rfl⟩
  all_goals exact List.mem_append_right before.tests List.mem_cons_self

/-- The conditional behind `else` is tested after the one before it. -/
theorem conditionTest_cons_sublist {other : Node}
    (drawn : (ofNode source node).conditional source = .ok flow)
    (linked : node.elseStatement? = some other) (kind : other.kind = .ifStatement) :
    ∃ next, (ofNode source other).flow = .ok next ∧
      (conditionTest source node :: next.tests).Sublist flow.tests := by
  obtain ⟨before, opening, yes, _, _, cases⟩ := conditional_cases drawn
  rw [linked] at cases
  rcases cases with ⟨none, _⟩ | ⟨_, next, same, _, own, rfl⟩ | ⟨_, _, _, same, plain, _⟩
  · cases none
  · cases same
    refine ⟨next, own, List.Sublist.trans ?_ (List.sublist_append_right before.tests _)⟩
    exact (List.sublist_append_right yes.tests next.tests).cons_cons _
  · cases same
    exact absurd kind plain

/-- Conditionals that follow each other by `else` are tested in order. -/
theorem linked_tests {rest : List Node}
    (linked : (node :: rest).IsChain fun one next => one.elseStatement? = some next)
    (conditionals : ∀ one ∈ node :: rest, one.kind = .ifStatement)
    (drawn : (ofNode source node).flow = .ok flow) :
    ((node :: rest).map (conditionTest source)).Sublist flow.tests := by
  induction rest generalizing node flow with
  | nil =>
    rw [flow_of_ifStatement source (conditionals node List.mem_cons_self)] at drawn
    exact List.singleton_sublist.mpr (conditionTest_mem drawn)
  | cons other rest inductionHypothesis =>
    rw [flow_of_ifStatement source (conditionals node List.mem_cons_self)] at drawn
    obtain ⟨here, behind⟩ := List.isChain_cons_cons.mp linked
    obtain ⟨next, own, among⟩ := conditionTest_cons_sublist drawn here
      (conditionals other (.tail _ List.mem_cons_self))
    have later := inductionHypothesis behind
      (fun one member => conditionals one (.tail _ member)) own
    exact (later.cons_cons _).trans among

/-- A chain in a function is tested in order, whatever else the function tests. -/
theorem chained_tests {function : Node} {chain : List Node}
    (drawn : (ofNode source function).inner = .ok flow) (chained : function.Chained chain) :
    (chain.map (conditionTest source)).Sublist flow.tests := by
  cases chain with
  | nil => exact List.nil_sublist _
  | cons node rest =>
    obtain ⟨own, inside, among⟩ := visited_tests drawn (chained.visited node rfl)
    exact (linked_tests chained.linked chained.conditionals inside).trans among

end Outline

end Tangle

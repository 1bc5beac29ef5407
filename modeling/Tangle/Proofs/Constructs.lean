/-
This file compares the contributors of the two scores. One score walks over a list
of nodes and the other goes down the tree with a depth, and each has its own table
of constructs and its own operators. Still both find the same constructs in the
same order, at the same places and with the same texts. Only the clauses of a
switch are found by the one and switches and `??` by the other.
-/

import Tangle.Proofs.McCabe

namespace Tangle

/-- What a contributor shows besides its cost. -/
def Contributor.shown (contributor : Contributor) : String × Nat × Nat × List Char :=
  (contributor.construct.name, contributor.position.line, contributor.position.column,
    contributor.text)

/-- What contributors show, without those of certain names. -/
def shownExcept (names : List String) (contributors : List Contributor) :
    List (String × Nat × Nat × List Char) :=
  (contributors.filter (·.construct.name ∉ names)).map Contributor.shown

section

variable {names : List String}

theorem shownExcept_append (first second : List Contributor) :
    shownExcept names (first ++ second) = shownExcept names first ++ shownExcept names second := by
  rw [shownExcept, List.filter_append, List.map_append]
  rfl

theorem shownExcept_eq_nil {contributors : List Contributor}
    (left : ∀ contributor ∈ contributors, contributor.construct.name ∈ names) :
    shownExcept names contributors = [] := by
  rw [shownExcept, List.map_eq_nil_iff, List.filter_eq_nil_iff]
  intro contributor member
  simpa using left contributor member

theorem shownExcept_singleton {contributor : Contributor}
    (kept : contributor.construct.name ∉ names) :
    shownExcept names [contributor] = [contributor.shown] := by
  rw [shownExcept, List.filter_cons_of_pos (by simpa using kept)]
  rfl

end

/-! ### One node -/

theorem Node.name_of_decision? {node : Node} {construct : Construct}
    (decides : node.decision? = some construct) :
    construct.name ∉ ["case clause"] ∧ construct.name ∉ ["switch statement", "logical ??"] := by
  unfold decision? at decides
  split at decides
  case h_5 => split at decides <;> cases decides <;> decide
  case h_8 => cases decides
  all_goals cases decides; decide

namespace Source

/-- What one node adds to the cognitive score inside `depth` structures. -/
def charges (source : Source) (depth : Nat) (node : Node) : List Contributor :=
  match node.nesting? with
  | some construct => [source.contributor construct (1 + depth) node node]
  | none =>
    match node.shortcut? with
    | some (shortcut, token) => [source.contributor (.logical shortcut) 1 token node]
    | none => []

/-- The depth below a node that stands inside `depth` structures. -/
def depthBelow (depth : Nat) (node : Node) : Nat :=
  if node.nesting?.isSome then depth + 1 else depth

variable (source : Source)

theorem burden_of_not_isFunction (depth : Nat) {node : Node} (visible : node.isFunction ≠ true) :
    source.burden depth node =
      source.charges depth node ++ source.burdenAll (depthBelow depth node) node.children := by
  obtain ⟨tag, children⟩ := node
  rw [burden, charges, depthBelow]
  dsimp only
  rw [if_neg visible]
  cases Node.nesting? ⟨tag, children⟩ with
  | some construct => rfl
  | none =>
    rcases Node.shortcut? ⟨tag, children⟩ with _ | ⟨shortcut, token⟩
    · rfl
    · rfl

/-- Both scores see the same in one node. -/
theorem shownExcept_charges (depth : Nat) (node : Node) :
    shownExcept ["switch statement", "logical ??"] (source.charges depth node) =
      shownExcept ["case clause"] (source.decisions node) := by
  rw [charges, decisions, Node.nesting?]
  by_cases switch : node.kind = .switchStatement
  · rw [if_pos (beq_iff_eq.mpr switch), Node.decision?_of_switch switch]
    dsimp only
    rw [if_pos (beq_iff_eq.mpr switch), shownExcept_eq_nil, shownExcept_eq_nil]
    · intro contributor member
      obtain ⟨clause, _, rfl⟩ := List.mem_map.mp member
      exact List.mem_singleton_self _
    · intro contributor member
      rw [List.mem_singleton.mp member]
      exact List.mem_cons_self
  · rw [if_neg (by simpa using switch)]
    cases decides : node.decision? with
    | some construct =>
      obtain ⟨scored, charged⟩ := Node.name_of_decision? decides
      -- The two contributors differ in their costs only, and those are not shown.
      have same (cost : Nat) : (source.contributor construct cost node node).shown =
          (source.contributor construct 1 node node).shown := rfl
      dsimp only
      rw [shownExcept_singleton (by exact charged), shownExcept_singleton (by exact scored), same]
    | none =>
      dsimp only
      rw [if_neg (by simpa using switch)]
      cases short : node.shortcut? with
      | none => rfl
      | some found =>
        obtain ⟨shortcut, token⟩ := found
        cases shortcut <;> rfl

/-! ### All nodes -/

mutual

/-- Both scores see the same in a node and all below it, at whatever depth the node stands. -/
theorem shownExcept_burden (depth : Nat) : (node : Node) →
    shownExcept ["switch statement", "logical ??"] (source.burden depth node) =
      shownExcept ["case clause"] ((node.walk Node.isFunction).flatMap source.decisions)
  | ⟨tag, children⟩ => by
    rw [Node.walk]
    by_cases isFunction : Node.isFunction ⟨tag, children⟩ = true
    · rw [if_pos isFunction, burden, if_pos isFunction]
      rfl
    · rw [if_neg isFunction, source.burden_of_not_isFunction depth isFunction, List.flatMap_cons,
        shownExcept_append, shownExcept_append, shownExcept_charges, shownExcept_burdenAll]

theorem shownExcept_burdenAll (depth : Nat) : (nodes : List Node) →
    shownExcept ["switch statement", "logical ??"] (source.burdenAll depth nodes) =
      shownExcept ["case clause"] ((Node.walkAll Node.isFunction nodes).flatMap source.decisions)
  | [] => rfl
  | node :: rest => by
    rw [burdenAll, Node.walkAll, List.flatMap_append, shownExcept_append, shownExcept_append,
      shownExcept_burden, shownExcept_burdenAll]

end

end Source

/-- Apart from the clauses of switches on the one side and switches and `??` on the other, both
scores of a node list the same constructs, in the same order, at the same places and with the same
texts. -/
theorem shownExcept_cyclomatic_eq_cognitive (source : Source) (node : Node) :
    shownExcept ["case clause"] (source.cyclomatic node).contributors =
      shownExcept ["switch statement", "logical ??"] (source.cognitive node).contributors := by
  rw [Source.cyclomatic, Source.cognitive, Node.descendants_eq_walkAll]
  exact (source.shownExcept_burdenAll 0 node.children).symm

end Tangle

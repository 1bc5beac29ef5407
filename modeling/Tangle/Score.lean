/-
This file scores functions in two ways. The cyclomatic score is one plus the
number of decisions. The cognitive score charges each control structure one plus
the number of structures around it, and each short-circuit operator one. Both are
lists of contributors, so a score always says where it comes from; neither looks
into nested functions.
-/

import Tangle.Function

namespace Tangle

/-! ### Contributors -/

/-- The operators that evaluate their right side only sometimes. -/
inductive Shortcut where
  | and
  | or
  | coalesce
deriving DecidableEq

namespace Shortcut

def sign : Shortcut → String
  | and => "&&"
  | or => "||"
  | coalesce => "??"

def ofKind? : Kind → Option Shortcut
  | .logicalAnd => some and
  | .logicalOr => some or
  | .coalesce => some coalesce
  | _ => none

end Shortcut

/-- What adds to a score. -/
inductive Construct where
  | ifStatement
  | whileLoop
  | doWhileLoop
  | forLoop
  | forInLoop
  | forOfLoop
  | ternary
  | catchClause
  | switchStatement
  | caseClause
  | logical (shortcut : Shortcut)
deriving DecidableEq

def Construct.name : Construct → String
  | ifStatement => "if statement"
  | whileLoop => "while loop"
  | doWhileLoop => "do-while loop"
  | forLoop => "for loop"
  | forInLoop => "for-in loop"
  | forOfLoop => "for-of loop"
  | ternary => "ternary operator"
  | catchClause => "catch clause"
  | switchStatement => "switch statement"
  | caseClause => "case clause"
  | logical shortcut => "logical " ++ shortcut.sign

/-- One increment of a score: what caused it, what it costs, where it is and how it begins. -/
structure Contributor where
  construct : Construct
  cost : Nat
  position : Position
  text : List Char
deriving DecidableEq

structure Score where
  total : Nat
  contributors : List Contributor
deriving DecidableEq

/-- The sum of what the contributors cost. -/
def totalCost (contributors : List Contributor) : Nat :=
  contributors.foldr (fun contributor rest => contributor.cost + rest) 0

namespace Node

/-- The structure that decides whether or how often code below it runs, other than a switch. -/
def decision? (node : Node) : Option Construct :=
  match node.kind with
  | .ifStatement => some .ifStatement
  | .whileStatement => some .whileLoop
  | .doStatement => some .doWhileLoop
  | .forStatement => some .forLoop
  | .forInStatement =>
    if ((node.child? .operator).map kind) == some .ofToken then some .forOfLoop else some .forInLoop
  | .ternaryExpression => some .ternary
  | .catchClause => some .catchClause
  | _ => none

/-- The structure that deepens the nesting of all below it. -/
def nesting? (node : Node) : Option Construct :=
  if node.kind == .switchStatement then some .switchStatement else node.decision?

/-- The short-circuit operator of a binary expression, with its token. -/
def shortcut? (node : Node) : Option (Shortcut × Node) :=
  if node.kind == .binaryExpression then
    (node.child? .operator).bind fun token => (Shortcut.ofKind? token.kind).map (·, token)
  else none

/-- The `case` clauses of a switch; its `default` is none of them. -/
def caseClauses (node : Node) : List Node :=
  match node.child? .body with
  | some body => body.namedChildren.filter (·.kind == .switchCase)
  | none => []

end Node

namespace Source

/-- A contributor at `anchor` that shows the beginning of `shown`. -/
def contributor (source : Source) (construct : Construct) (cost : Nat) (anchor shown : Node) :
    Contributor :=
  ⟨construct, cost, source.position anchor, snippet (source.text shown) snippetLimit⟩

/-! ### Cyclomatic -/

/-- What one node adds to the cyclomatic score. -/
def decisions (source : Source) (node : Node) : List Contributor :=
  match node.decision? with
  | some construct => [source.contributor construct 1 node node]
  | none =>
    if node.kind == .switchStatement then
      node.caseClauses.map fun clause => source.contributor .caseClause 1 clause clause
    else
      match node.shortcut? with
      | some (.coalesce, _) | none => []
      | some (shortcut, token) => [source.contributor (.logical shortcut) 1 token node]

/-- One plus the number of decisions below a node. -/
def cyclomatic (source : Source) (node : Node) : Score :=
  let contributors := (node.descendants true).flatMap source.decisions
  ⟨1 + totalCost contributors, contributors⟩

/-! ### Cognitive -/

mutual

/-- The contributors of a node that stands inside `depth` structures, and of all below it. -/
def burden (source : Source) (depth : Nat) : Node → List Contributor
  | ⟨tag, children⟩ =>
    let node : Node := ⟨tag, children⟩
    if node.isFunction then []
    else
      match node.nesting? with
      | some construct =>
        source.contributor construct (1 + depth) node node ::
          burdenAll source (depth + 1) children
      | none =>
        match node.shortcut? with
        | some (shortcut, token) =>
          source.contributor (.logical shortcut) 1 token node :: burdenAll source depth children
        | none => burdenAll source depth children

/-- The contributors of several nodes that stand inside `depth` structures. -/
def burdenAll (source : Source) (depth : Nat) : List Node → List Contributor
  | [] => []
  | node :: rest => burden source depth node ++ burdenAll source depth rest

end

/-- The cost of all control structures below a node, weighted by their nesting. -/
def cognitive (source : Source) (node : Node) : Score :=
  let contributors := source.burdenAll 0 node.children
  ⟨totalCost contributors, contributors⟩

end Source

end Tangle

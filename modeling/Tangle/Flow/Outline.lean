/-
This file finds the control flow of a function in its syntax tree. The tree is
outlined from the leaves up: each node is kept together with the flow that it
adds, so that a construct can look up the flows of its parts wherever they stand
below it. Nested functions add nothing.
-/

import Tangle.Analysis
import Tangle.Flow

namespace Tangle

/-- The statements that leave a block. -/
def Kind.isTerminal : Kind → Bool
  | .returnStatement | .breakStatement | .continueStatement | .throwStatement => true
  | _ => false

/-- A node with the flow it adds. A ternary without a condition has no flow, nor has anything that
visits one. -/
structure Outline where
  node : Node
  /-- The flow of the node as a whole. -/
  flow : Except NodeError Flow
  /-- The flow of its named children, one behind the other. -/
  inner : Except NodeError Flow
  parts : List Outline

namespace Outline

/-! ### Looking at the parts -/

/-- The first part in the given role. -/
def part? (outline : Outline) (field : Field) : Option Outline :=
  outline.parts.find? (·.node.tag.field == some field)

/-- All parts in the given role. -/
def partsAt (outline : Outline) (field : Field) : List Outline :=
  outline.parts.filter (·.node.tag.field == some field)

def namedParts (outline : Outline) : List Outline :=
  outline.parts.filter (·.node.isNamed)

/-- The named parts other than comments. -/
def contents (outline : Outline) : List Outline :=
  outline.namedParts.filter (·.node.kind != .comment)

/-- The statements of a block, or the one statement that stands in place of a block. -/
def statements (outline : Outline) : List Outline :=
  if outline.node.kind == .statementBlock then outline.contents else [outline]

/-- The flow of a part that may be absent. -/
def flowOf (part : Option Outline) : Except NodeError Flow :=
  match part with
  | some outline => outline.flow
  | none => .ok .skip

/-- The flows of several nodes, one behind the other. -/
def flowOfAll (outlines : List Outline) : Except NodeError Flow :=
  (outlines.mapM flow).map Flow.ofList

/-! ### Texts -/

/-- The label of a node. -/
def labelOf (source : Source) (node : Node) (limit : Int) : String :=
  String.ofList (label (source.text node) limit)

/-- The first of two texts that is not empty. -/
def orElse (text fallback : String) : String :=
  if text.isEmpty then fallback else text

/-- The label of a condition, taken out of its parentheses. -/
def conditionLabel (source : Source) (condition : Option Outline) (limit : Int) : String :=
  match condition with
  | none => ""
  | some outline =>
    if outline.node.kind == .parenthesizedExpression then
      match outline.contents.head? with
      | some inside => labelOf source inside.node limit
      | none => labelOf source outline.node limit
    else labelOf source outline.node limit

/-! ### Constructs -/

/-- A branch: the text of its first vertex and the flow behind it. A statement that leaves the
block is itself the first vertex; any other first statement only lends its label. -/
def branch (source : Source) (body : Option Outline) (fallback : String) :
    Except NodeError (String × Flow) :=
  match (body.map statements).getD [] with
  | [] => .ok (fallback, .skip)
  | first :: rest =>
    if first.node.kind.isTerminal then do
      let inside ← first.inner
      let behind ← flowOfAll rest
      pure (labelOf source first.node 30, .seq inside behind)
    else do
      let all ← flowOfAll (first :: rest)
      pure (orElse (labelOf source first.node 40) fallback, all)

/-- A conditional. An `else` that holds another conditional continues the decision. -/
def conditional (source : Source) (outline : Outline) : Except NodeError Flow := do
  let condition := outline.part? .condition
  let before ← flowOf condition
  let test := "if (" ++ conditionLabel source condition 30 ++ ")"
  let (opening, yes) ← branch source (outline.part? .consequence) "then"
  match (outline.part? .alternative).bind (·.contents.head?) with
  | none => pure (.seq before (.optional test .condition opening yes))
  | some other =>
    if other.node.kind == .ifStatement then do
      let next ← other.flow
      pure (.seq before (.chain test opening yes next))
    else do
      let (otherwise, no) ← branch source (some other) "else"
      pure (.seq before (.either test opening yes otherwise no))

/-- A loop. All of its head is evaluated before its decision. -/
def loop (source : Source) (outline : Outline) : Except NodeError Flow := do
  let body := outline.part? .body
  let isBody (part : Outline) : Bool := body.any (·.node.sameSpan part.node)
  let head ← flowOfAll (outline.namedParts.filter (!isBody ·))
  let inside ← flowOf body
  pure (.seq head (.loop (orElse (labelOf source outline.node 40) "loop") inside))

/-- A clause of a switch: the text of its first vertex and the flow behind it. -/
def clause (source : Source) (outline : Outline) : Except NodeError (String × Flow) := do
  let value := outline.part? .value
  let text := match value with
    | some first => "case " ++ labelOf source first.node 30
    | none => "default"
  let first ← flowOf value
  let rest ← flowOfAll (outline.partsAt .body)
  pure (text, .seq first rest)

def isClause (outline : Outline) : Bool :=
  outline.node.kind == .switchCase || outline.node.kind == .switchDefault

/-- The clauses of a switch, its `default` among them. -/
def clauses (outline : Outline) : List Outline :=
  match outline.part? .body with
  | some body => body.namedParts.filter isClause
  | none => []

def switch (source : Source) (outline : Outline) : Except NodeError Flow := do
  let value := outline.part? .value
  let before ← flowOf value
  let test := "switch (" ++ conditionLabel source value 20 ++ ")"
  let drawn ← outline.clauses.mapM (clause source)
  pure (.seq before (.choose test (Clauses.ofList drawn)))

def ternary (source : Source) (outline : Outline) : Except NodeError Flow :=
  match outline.part? .condition with
  | none => .error .ternaryWithoutCondition
  | some condition => do
    let before ← condition.flow
    let yes ← flowOf (outline.part? .consequence)
    let no ← flowOf (outline.part? .alternative)
    let test := labelOf source condition.node 20 ++ " ?"
    pure (.seq before (.either test "true branch" yes "false branch" no))

/-- The handler of a guarded block, if it has one: a decision of its own. -/
def rescue (source : Source) (handler : Option Outline) : Except NodeError Flow :=
  match handler with
  | none => .ok .skip
  | some handler => do
    let text := match handler.part? .parameter with
      | some parameter => "catch (" ++ labelOf source parameter.node 20 ++ ")"
      | none => "catch"
    let (opening, caught) ← branch source (handler.part? .body) "catch body"
    pure (.optional text .handler opening caught)

/-- A guarded block, its handler, and what is done in either case. -/
def attempt (source : Source) (outline : Outline) : Except NodeError Flow := do
  let body ← flowOf (outline.part? .body)
  let handled ← rescue source (outline.part? .handler)
  let finalizer ← flowOf (outline.part? .finalizer)
  pure (.seq body (.seq handled finalizer))

/-- A statement that leaves the block, with what its expression adds behind it. -/
def terminal (source : Source) (outline : Outline) : Except NodeError Flow := do
  let inside ← outline.inner
  pure (.seq (.step (labelOf source outline.node 30)) inside)

/-- An operator that may skip its right side. The other binary operators only have inner flow. -/
def operation (outline : Outline) : Except NodeError Flow :=
  match (outline.part? .operator).bind fun token => Shortcut.ofKind? token.node.kind with
  | none | some .coalesce => outline.inner
  | some shortcut => do
    let left ← flowOf (outline.part? .left)
    let right ← flowOf (outline.part? .right)
    pure (.seq left (.seq (.shortcut shortcut.sign) right))

/-! ### The whole tree -/

/-- The flow of a node whose parts are outlined. -/
def construct (source : Source) (outline : Outline) : Except NodeError Flow :=
  if outline.node.isFunction then .ok .skip
  else
    match outline.node.kind with
    | .ifStatement => outline.conditional source
    | .whileStatement | .doStatement | .forStatement | .forInStatement => outline.loop source
    | .switchStatement => outline.switch source
    | .ternaryExpression => outline.ternary source
    | .tryStatement => outline.attempt source
    | .returnStatement | .breakStatement | .continueStatement | .throwStatement =>
      outline.terminal source
    | .binaryExpression => outline.operation
    | _ => outline.inner

/-- Outlines a node whose parts are outlined. -/
def ofParts (source : Source) (node : Node) (parts : List Outline) : Outline :=
  let inner := flowOfAll (parts.filter (·.node.isNamed))
  let bare : Outline := ⟨node, inner, inner, parts⟩
  ⟨node, bare.construct source, inner, parts⟩

mutual

def ofNode (source : Source) : Node → Outline
  | ⟨tag, children⟩ => ofParts source ⟨tag, children⟩ (ofNodes source children)

def ofNodes (source : Source) : List Node → List Outline
  | [] => []
  | node :: rest => ofNode source node :: ofNodes source rest

end

end Outline

namespace Source

/-- The control flow graph of a function. -/
def flowGraph (source : Source) (function : Node) : Except NodeError Graph :=
  if function.isFunction then (Outline.ofNode source function).inner.map Flow.graph
  else .error (.notAFunction function.kind)

end Source

/-- The control flow graph of a function, when both the function and its source are at hand. -/
def flowGraph? (source : Option Source) (function : Option Node) : Except NodeError Graph :=
  match source, function with
  | some source, some function => source.flowGraph function
  | _, _ => .error .treeRequired

end Tangle

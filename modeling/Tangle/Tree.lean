/-
This file holds the syntax trees that every analysis works on. A tree is given
from outside, so any shape is possible: fields may be missing, kinds may stand
where the grammar has no place for them, and spans may overlap. Nothing here
assumes otherwise.

The walks are pre-order walks that leave out whole subtrees. A walk that needs to
look upwards yields places, which are nodes together with their ancestors.
-/

namespace Tangle

/-! ### Kinds and fields -/

/-- The node types of the JavaScript and TypeScript grammars that the analyses tell apart. -/
inductive Kind where
  | functionDeclaration
  | generatorFunctionDeclaration
  | functionExpression
  | function
  | generatorFunction
  | arrowFunction
  | methodDefinition
  | parenthesizedExpression
  | asExpression
  | satisfiesExpression
  | nonNullExpression
  | typeAssertion
  | importStatement
  | variableDeclarator
  | pair
  | publicFieldDefinition
  | fieldDefinition
  | assignmentExpression
  | ifStatement
  | whileStatement
  | doStatement
  | forStatement
  | forInStatement
  | ternaryExpression
  | catchClause
  | switchStatement
  | switchCase
  | switchDefault
  | tryStatement
  | returnStatement
  | breakStatement
  | continueStatement
  | throwStatement
  | binaryExpression
  | callExpression
  | statementBlock
  | templateString
  | comment
  | logicalAnd
  | logicalOr
  | coalesce
  | ofToken
  | error
  | other (name : String)
deriving DecidableEq

/-- The kinds that have a constructor of their own, with the grammar's names for them. -/
def Kind.known : List (String × Kind) :=
  [("function_declaration", .functionDeclaration),
   ("generator_function_declaration", .generatorFunctionDeclaration),
   ("function_expression", .functionExpression),
   ("function", .function),
   ("generator_function", .generatorFunction),
   ("arrow_function", .arrowFunction),
   ("method_definition", .methodDefinition),
   ("parenthesized_expression", .parenthesizedExpression),
   ("as_expression", .asExpression),
   ("satisfies_expression", .satisfiesExpression),
   ("non_null_expression", .nonNullExpression),
   ("type_assertion", .typeAssertion),
   ("import_statement", .importStatement),
   ("variable_declarator", .variableDeclarator),
   ("pair", .pair),
   ("public_field_definition", .publicFieldDefinition),
   ("field_definition", .fieldDefinition),
   ("assignment_expression", .assignmentExpression),
   ("if_statement", .ifStatement),
   ("while_statement", .whileStatement),
   ("do_statement", .doStatement),
   ("for_statement", .forStatement),
   ("for_in_statement", .forInStatement),
   ("ternary_expression", .ternaryExpression),
   ("catch_clause", .catchClause),
   ("switch_statement", .switchStatement),
   ("switch_case", .switchCase),
   ("switch_default", .switchDefault),
   ("try_statement", .tryStatement),
   ("return_statement", .returnStatement),
   ("break_statement", .breakStatement),
   ("continue_statement", .continueStatement),
   ("throw_statement", .throwStatement),
   ("binary_expression", .binaryExpression),
   ("call_expression", .callExpression),
   ("statement_block", .statementBlock),
   ("template_string", .templateString),
   ("comment", .comment),
   ("&&", .logicalAnd),
   ("||", .logicalOr),
   ("??", .coalesce),
   ("of", .ofToken),
   ("ERROR", .error)]

/-- The kind with the given name in the grammar. -/
def Kind.ofName (name : String) : Kind :=
  ((Kind.known.find? (·.1 == name)).map (·.2)).getD (.other name)

/-- The grammar's name of a kind. -/
def Kind.name : Kind → String
  | .other name => name
  | kind => ((Kind.known.find? (·.2 == kind)).map (·.1)).getD ""

/-- The role of a child in its parent. -/
inductive Field where
  | name
  | key
  | property
  | left
  | right
  | operator
  | condition
  | consequence
  | alternative
  | body
  | value
  | handler
  | parameter
  | finalizer
  | function
  | arguments
  | other (name : String)
deriving DecidableEq

/-- The fields that have a constructor of their own, with the grammar's names for them. -/
def Field.known : List (String × Field) :=
  [("name", .name), ("key", .key), ("property", .property), ("left", .left), ("right", .right),
   ("operator", .operator), ("condition", .condition), ("consequence", .consequence),
   ("alternative", .alternative), ("body", .body), ("value", .value), ("handler", .handler),
   ("parameter", .parameter), ("finalizer", .finalizer), ("function", .function),
   ("arguments", .arguments)]

/-- The field with the given name in the grammar. -/
def Field.ofName (name : String) : Field :=
  ((Field.known.find? (·.1 == name)).map (·.2)).getD (.other name)

/-! ### Nodes -/

/-- What a node says of itself. `index` is its number in the listing of its tree, `start` and
`stop` are byte offsets into the source. -/
structure Tag where
  index : Nat
  kind : Kind
  named : Bool
  missing : Bool
  start : Nat
  stop : Nat
  field : Option Field
deriving DecidableEq

/-- A node of a syntax tree with all that hangs below it. -/
structure Node where
  tag : Tag
  children : List Node

namespace Node

def kind (node : Node) : Kind := node.tag.kind

def isNamed (node : Node) : Bool := node.tag.named

def isMissing (node : Node) : Bool := node.tag.missing

def namedChildren (node : Node) : List Node :=
  node.children.filter isNamed

/-- The first child in the given role. -/
def child? (node : Node) (field : Field) : Option Node :=
  node.children.find? (·.tag.field == some field)

/-- All children in the given role. -/
def childrenAt (node : Node) (field : Field) : List Node :=
  node.children.filter (·.tag.field == some field)

/-- Whether two nodes have the same kind and cover the same bytes. -/
def sameSpan (first second : Node) : Bool :=
  first.kind == second.kind && first.tag.start == second.tag.start &&
    first.tag.stop == second.tag.stop

/-! ### Walks -/

mutual

/-- A node and all below it in pre-order, without the subtrees whose top satisfies `cut`. -/
def walk (cut : Node → Bool) : Node → List Node
  | ⟨tag, children⟩ =>
    if cut ⟨tag, children⟩ then [] else ⟨tag, children⟩ :: walkAll cut children

/-- The walks of several nodes, one after the other. -/
def walkAll (cut : Node → Bool) : List Node → List Node
  | [] => []
  | node :: rest => walk cut node ++ walkAll cut rest

end

end Node

/-- A node where it stands: its ancestors come nearest first. -/
structure Place where
  node : Node
  ancestors : List Node

namespace Place

mutual

/-- The places of a node and of all below it in pre-order, without the subtrees whose top
satisfies `cut`. -/
def walk (cut : Node → Bool) (ancestors : List Node) : Node → List Place
  | ⟨tag, children⟩ =>
    if cut ⟨tag, children⟩ then []
    else ⟨⟨tag, children⟩, ancestors⟩ :: walkAll cut (⟨tag, children⟩ :: ancestors) children

/-- The places below several nodes with the same ancestors. -/
def walkAll (cut : Node → Bool) (ancestors : List Node) : List Node → List Place
  | [] => []
  | node :: rest => walk cut ancestors node ++ walkAll cut ancestors rest

end

end Place

/-- A parsed file: the root of its tree, and whether parsing met errors on the way. -/
structure Tree where
  root : Node
  hasError : Bool

/-- The tree of a text that holds nothing. -/
def Tree.empty : Tree :=
  ⟨⟨⟨0, .other "program", true, false, 0, 0, none⟩, []⟩, false⟩

/-- Every place of the tree in pre-order. -/
def Tree.places (tree : Tree) : List Place :=
  Place.walk (fun _ => false) [] tree.root

/-- The place of the node with the given number. -/
def Tree.place? (tree : Tree) (index : Nat) : Option Place :=
  tree.places.find? (·.node.tag.index == index)

end Tangle

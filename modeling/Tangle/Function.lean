/-
This file finds the functions of a tree and names them. A declaration has its own
name. An expression takes the name of what it is bound to, seen through
parentheses and type wrappers; only then does its own name count.
-/

import Tangle.Source
import Tangle.Text.Blank

namespace Tangle

/-! ### Function-like nodes -/

/-- The kinds that own a body. -/
def Kind.isFunction : Kind → Bool
  | .functionDeclaration | .generatorFunctionDeclaration | .functionExpression | .function
  | .generatorFunction | .arrowFunction | .methodDefinition => true
  | _ => false

/-- The function kinds whose own name is final. -/
def Kind.isDeclaration : Kind → Bool
  | .functionDeclaration | .generatorFunctionDeclaration | .methodDefinition => true
  | _ => false

/-- The wrappers that stand between a function and what it is bound to without changing it. -/
def Kind.isWrapper : Kind → Bool
  | .parenthesizedExpression | .asExpression | .satisfiesExpression | .nonNullExpression
  | .typeAssertion => true
  | _ => false

namespace Node

def isFunction (node : Node) : Bool :=
  node.isNamed && node.kind.isFunction

def isImport (node : Node) : Bool :=
  node.kind == .importStatement

/-- The body of a function, unless it is absent or was made up by the parser. -/
def body? (node : Node) : Option Node :=
  (node.child? .body).filter (!·.isMissing)

/-- All nodes below a node in pre-order. With `stopAtFunctions`, nested functions are left out
with everything in them. -/
def descendants (node : Node) (stopAtFunctions : Bool) : List Node :=
  walkAll (fun below => stopAtFunctions && below.isFunction) node.children

end Node

/-- The functions of a tree in pre-order, nested ones too. Imports are skipped altogether. -/
def Tree.functions (tree : Tree) : List Place :=
  (Place.walk Node.isImport [] tree.root).filter (·.node.isFunction)

/-! ### Names -/

/-- Takes a matching pair of quotes off a text. -/
def stripQuotes (text : List Char) : List Char :=
  match text with
  | first :: second :: rest =>
    let last := (second :: rest).getLast (List.cons_ne_nil _ _)
    if first == last && (first == '\'' || first == '"' || first == '\x60') then
      (second :: rest).dropLast
    else text
  | _ => text

/-- What a function below `parent` would be bound to. -/
def Node.bindingTarget? (parent : Node) : Option Node :=
  match parent.kind with
  | .variableDeclarator => parent.child? .name
  | .pair => parent.child? .key
  | .publicFieldDefinition | .fieldDefinition => parent.child? .name <|> parent.child? .property
  | .assignmentExpression => parent.child? .left
  | _ => none

namespace Place

/-- The nearest ancestor that is no mere wrapper. -/
def binder? (place : Place) : Option Node :=
  place.ancestors.find? (!·.kind.isWrapper)

/-- The name of the variable, property or field that a function is bound to. -/
def bindingName? (source : Source) (place : Place) : Option (List Char) :=
  (place.binder?.bind Node.bindingTarget?).bind fun target =>
    let name := stripQuotes (Text.trim (source.text target))
    if name.isEmpty then none else some name

/-- The name of a function that has none. -/
def anonymous : List Char := "anonymous".toList

/-- The name of a function. -/
def nameChars (source : Source) (place : Place) : List Char :=
  match place.node.child? .name with
  | some own =>
    if place.node.kind.isDeclaration then source.text own
    else (bindingName? source place).getD (source.text own)
  | none => (bindingName? source place).getD anonymous

/-- The name of a function. -/
def name (source : Source) (place : Place) : String :=
  String.ofList (place.nameChars source)

end Place

namespace Source

/-- The functions of a source in pre-order. -/
def functions (source : Source) : List Place :=
  source.tree.functions

/-- The function with the given name; of several, the last one. -/
def function? (source : Source) (name : String) : Option Place :=
  source.functions.reverse.find? (·.name source == name)

end Source

/-! ### Excerpts -/

/-- The first `limit` characters of a text on one line: newlines become spaces one by one, and
carriage returns vanish. -/
def snippet (text : List Char) (limit : Int) : List Char :=
  ((Text.upTo limit text).filter (· != '\r')).map fun c => if c == '\n' then ' ' else c

/-- How much of a text a snippet shows. -/
def snippetLimit : Int := 50

/-- The first line of the trimmed text, cut to `limit` characters. -/
def label (text : List Char) (limit : Int) : List Char :=
  let line := (Text.trim text).takeWhile (· != '\n')
  Text.upTo limit ((line.reverse.dropWhile (· == '\r')).reverse)

/-- How much of a line a label shows. -/
def labelLimit : Int := 40

end Tangle

/-
This file indexes functions by name and joins them into a call graph. The index
is by name alone: a function that is defined again replaces the earlier one but
keeps its place. Calls inside nested functions count for the enclosing function
too.
-/

import Tangle.Function
import Tangle.Graph
import Tangle.Ordered

namespace Tangle

/-! ### Calls -/

namespace Source

/-- The name that a call calls: the text of its target up to the first parenthesis. A tagged
template is no call. -/
def callee? (source : Source) (call : Node) : Option String :=
  if (call.child? .arguments).any (·.kind == .templateString) then none
  else
    (call.child? .function).bind fun target =>
      let text := source.text target
      let head := Text.trim (text.takeWhile (· != '('))
      let name := if head.isEmpty then Text.trim text else head
      if name.isEmpty then none else some (String.ofList name)

/-- The names called below a node, each once, in the order in which they first come. -/
def callees (source : Source) (node : Node) : List String :=
  distinct (((node.descendants false).filter (·.kind == .callExpression)).filterMap source.callee?)

end Source

/-! ### The table of functions -/

/-- A function as the table holds it. -/
structure Definition where
  file : String
  node : Node
  callees : List String

/-- Functions by name, in the order in which the names first come. -/
abbrev CallTable := List (String × Definition)

namespace CallTable

/-- The functions of one source, each under its name. -/
def definitions (source : Source) : List (String × Definition) :=
  source.functions.map fun place =>
    (place.name source, ⟨source.path, place.node, source.callees place.node⟩)

/-- The functions of several sources. -/
def ofSources (sources : List Source) : CallTable :=
  Ordered.putAll [] (sources.flatMap definitions)

end CallTable

/-! ### The call graph -/

/-- A name in the call graph; names that are only called have no file. -/
structure CallVertex where
  name : String
  file : Option String
deriving DecidableEq

/-- Who calls whom. -/
structure CallGraph where
  vertices : List CallVertex
  edges : List (String × String)

namespace CallGraph

/-- The edges come in table order, those of one caller in the order of its calls, each once. Names
that are only called stand behind the defined ones. -/
def ofTable (table : CallTable) : CallGraph :=
  let edges := table.flatMap fun (name, definition) => (distinct definition.callees).map (name, ·)
  let defined := table.map (·.1)
  let called := (distinct (edges.map (·.2))).filter (!defined.contains ·)
  ⟨table.map (fun (name, definition) => ⟨name, some definition.file⟩) ++
    called.map (⟨·, none⟩), edges⟩

/-- The direct callers of a name. -/
def callersOf (graph : CallGraph) (name : String) : List String :=
  (graph.edges.filter (·.2 = name)).map (·.1)

end CallGraph

end Tangle

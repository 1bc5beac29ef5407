/-
This file prints the control flow graph of one function of a file. Of several
functions with one name the first is taken, unless a line says which.
-/

import Tangle.Command.File

namespace Tangle.Command.FlowChart

/-- Whether a function is one that is asked for. -/
def isMeant (request : GraphRequest) (report : FunctionReport) : Bool :=
  report.name == request.function &&
    (match request.line with
    | some line => (report.line : Int) == line
    | none => true)

/-- What is said about the graph of a function. -/
def summary (report : FunctionReport) (graph : Graph) : List (String × Json) :=
  [("function", .string report.name), ("line", .nat report.line),
   ("cyclomatic", .nat report.cyclomatic.total), ("cognitive", .nat report.cognitive.total),
   ("nodes", .nat graph.vertices.length), ("edges", .nat graph.edges.length),
   ("decisions", .nat graph.decisions.length)]

/-- Prints the graph of a function. -/
def printGraph (context : Context) (source : Source) (function : Node) (report : FunctionReport) :
    Action Unit := do
  let graph ← Action.orStop haltOfNode (source.flowGraph function)
  let chart := Mermaid.render graph (some (Mermaid.functionTitle report))
  if context.json then
    context.printJson "graph" (summary report graph)
      [("graph", graph.toJson), ("mermaid", .string chart)]
  else Action.print chart

/-- Finds the function that is asked for and prints its graph. -/
def run (context : Context) (request : GraphRequest) : Action Unit := do
  let path := Path.ofText request.path
  needFile context path
  let analysis ← analyzeNamed context none path
  let name := request.function
  match analysis.functions.filter fun (_, report) => isMeant request report with
  | [] =>
    let file := analysis.source.path
    Action.stop (.failed (.general s!"Function {name}() not found in {file}" 1))
  | (function, report) :: others => do
    let count := others.length + 1
    let line := report.line
    Action.onlyIf (!others.isEmpty) (Action.log .info .graphCommand
      s!"{count} functions named {name}; using line {line} (pass --line to choose)")
    printGraph context analysis.source function report

end Tangle.Command.FlowChart

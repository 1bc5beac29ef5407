/-
This file scores one source file: a table or a JSON result, a report, and on
request the control flow graph of every function in a file of its own.
-/

import Tangle.Command.Action
import Tangle.Command.Request
import Tangle.GraphFile
import Tangle.Mermaid
import Tangle.StoredSource

namespace Tangle.Command

/-- Why a file could not be scored. -/
def haltOfStored : StoredError → Halt
  | .refused failure => .failed failure
  | .unreadable error => .crashed (.access error)

/-- Why a function could not be drawn. -/
def haltOfNode (error : NodeError) : Halt :=
  .crashed (.node error)

/-- Stops unless the path leads to a file. -/
def needFile (context : Context) (path : Path) : Action Unit := do
  let workspace ← Action.workspace
  let missing := (context.cwd.resolve path).text
  match workspace.find context.cwd path with
  | .ok (_, .file _) => pure ()
  | .error .nameTooLong => Action.stop (.crashed (.access .nameTooLong))
  | _ => Action.stop (.failed (.sourceNotFound missing))

/-- Scores a file that goes by its last name from there on. -/
def analyzeNamed (context : Context) (thresholds : Option Thresholds) (path : Path) :
    Action Analysis := do
  let workspace ← Action.workspace
  let analysis ← Action.logged
    (workspace.analyze context.cwd thresholds path (path.parts.getLast?.getD ""))
  Action.orStop haltOfStored analysis

namespace File

/-- The directory for graphs within the output directory. -/
def graphDirectory (output : Path) : Path :=
  output.join ⟨.here, ["graphs"]⟩

/-- Makes sure that a directory is there and holds no graphs. -/
def clearGraphs (context : Context) (directory : Path) : Action Unit :=
  Action.change fun workspace =>
    match workspace.find context.cwd directory with
    | .ok _ => workspace.removeEnding context.cwd directory GraphFile.ending
    | .error .nameTooLong => workspace.refused .nameTooLong
    | .error _ => workspace.makeDirectories context.cwd directory false

/-- The names of the graph files of a source, in the order of its functions. -/
def graphNames (report : FileReport) : List String :=
  (GraphFile.names [] (report.functions.map fun function => (function.name, function.line))).1

/-- Writes one graph. -/
def writeGraph (context : Context) (source : Source) (directory : Path)
    (item : (Node × FunctionReport) × String) : Action Unit := do
  let chart ← Action.orStop haltOfNode (Mermaid.renderFunction source item.1.1 item.1.2)
  Action.change fun workspace => workspace.writeFile context.cwd directory item.2 chart

/-- Writes the graph of every function and tells where they are. -/
def writeGraphs (context : Context) (analysis : Analysis) (directory : Path) :
    Action (List String) := do
  let names := graphNames analysis.report
  clearGraphs context directory
  Action.each (writeGraph context analysis.source directory) (analysis.functions.zip names)
  let count := names.length
  let place := directory.text
  Action.log .debug .fileCommand s!"Wrote {count} graph(s) to {place}"
  pure (names.map fun name => (directory.join ⟨.here, [name]⟩).text)

/-- Prints the result for people. -/
def printText (report : FileReport) (graphs : List String) (page : Option String) :
    Action Unit := do
  let file := report.file
  let count := report.functions.length
  Action.print s!"{file}: {count} function(s)\n"
  printTable report
  remarkDiagnostics report
  Action.each (fun graph => Action.print ("  graph  " ++ graph)) graphs
  announceReport page

/-- Prints the result as JSON. -/
def printJson (context : Context) (thresholds : Thresholds) (report : FileReport)
    (graphs : List String) (page : Option String) : Action Unit :=
  context.printJson "file" (summarize [report]).members
    [("thresholds", thresholds.toJson), ("file", report.toJson),
     ("graphs", .arr (graphs.map .string)), ("report", .option .string page)]

/-- Scores a file. -/
def run (context : Context) (request : FileRequest) : Action Unit := do
  let path := Path.ofText request.path
  needFile context path
  let thresholds ← loadThresholds (context.cwd.resolve path).parent
  let analysis ← analyzeNamed context (some thresholds) path
  let report := analysis.report
  let output := Path.ofText request.outputDir
  let graphs ←
    if request.graph then writeGraphs context analysis (graphDirectory output) else pure []
  let page ← if request.html then some <$> writeReport context [report] output else pure none
  if context.json then printJson context thresholds report graphs page
  else printText report graphs page
  keepGate request.failOnError [report] thresholds

end File

end Tangle.Command

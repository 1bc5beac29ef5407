/-
This file sums up the scores of files and gives their JSON form.
-/

import Tangle.Analysis
import Tangle.Calls.CallerTree
import Tangle.Failure
import Tangle.Graph
import Tangle.Json

namespace Tangle

/-! ### JSON forms -/

def Contributor.toJson (contributor : Contributor) : Json :=
  .object [("kind", .string contributor.construct.name), ("cost", .nat contributor.cost),
    ("line", .nat contributor.position.line), ("column", .nat contributor.position.column),
    ("text", .chars contributor.text)]

def Score.contributorsJson (score : Score) : Json :=
  .arr (score.contributors.map Contributor.toJson)

def FunctionReport.toJson (report : FunctionReport) : Json :=
  .object [("function", .string report.name), ("line", .nat report.line),
    ("cyclomatic", .nat report.cyclomatic.total), ("cognitive", .nat report.cognitive.total),
    ("threshold_status", .string report.status.name),
    ("cyclomatic_contributors", report.cyclomatic.contributorsJson),
    ("cognitive_contributors", report.cognitive.contributorsJson)]

def Diagnostic.toJson (diagnostic : Diagnostic) : Json :=
  .object [("level", .string diagnostic.severity.name), ("message", .string diagnostic.message),
    ("line", .option .nat diagnostic.line)]

def FileReport.toJson (report : FileReport) : Json :=
  .object [("file", .string report.file),
    ("functions", .arr (report.functions.map FunctionReport.toJson)),
    ("diagnostics", .arr (report.diagnostics.map Diagnostic.toJson))]

def Thresholds.toJson (thresholds : Thresholds) : Json :=
  .object [("warning", .option .int thresholds.warning), ("error", .option .int thresholds.error)]

def Vertex.toJson (vertex : Vertex) : Json :=
  .object [("id", .int vertex.id), ("label", .string vertex.label),
    ("kind", .string vertex.kind.name)]

def Edge.toJson (edge : Edge) : Json :=
  .object [("from", .int edge.source), ("to", .int edge.target),
    ("label", .option .string edge.label)]

def Graph.toJson (graph : Graph) : Json :=
  .object [("nodes", .arr (graph.vertices.map Vertex.toJson)),
    ("edges", .arr (graph.edges.map Edge.toJson))]

mutual

/-- The JSON form of a caller tree, with its files shown as told. -/
def CallerTree.toJson (showFile : String → String) : CallerTree → Json
  | ⟨name, file, callers⟩ =>
    .object [("function", .string name), ("file", .string (showFile file)),
      ("callers", .arr (CallerTree.toJsonAll showFile callers))]

def CallerTree.toJsonAll (showFile : String → String) : List CallerTree → List Json
  | [] => []
  | tree :: rest => CallerTree.toJson showFile tree :: CallerTree.toJsonAll showFile rest

end

/-! ### Summaries -/

/-- How many functions have the given status. -/
def countStatus (reports : List FileReport) (status : Status) : Nat :=
  (reports.flatMap (·.functions)).countP (·.status = status)

/-- What a batch of files adds up to. -/
structure Summary where
  files : Nat
  functions : Nat
  errors : Nat
  warnings : Nat
  diagnostics : Nat
deriving DecidableEq

def summarize (reports : List FileReport) : Summary where
  files := reports.length
  functions := (reports.flatMap (·.functions)).length
  errors := countStatus reports .error
  warnings := countStatus reports .warning
  diagnostics := (reports.flatMap (·.diagnostics)).length

def Summary.members (summary : Summary) : List (String × Json) :=
  [("files", .nat summary.files), ("functions", .nat summary.functions),
    ("errors", .nat summary.errors), ("warnings", .nat summary.warnings),
    ("diagnostics", .nat summary.diagnostics)]

/-- Fails if any function has reached the error threshold. -/
def checkGate (reports : List FileReport) (thresholds : Thresholds) : Except Failure Unit :=
  let errors := countStatus reports .error
  let bound := match thresholds.error with
    | some bound => toString bound
    | none => "None"
  if errors = 0 then .ok ()
  else
    .error (.gate
      s!"{errors} function(s) at or above the cyclomatic error threshold ({bound}).")

end Tangle

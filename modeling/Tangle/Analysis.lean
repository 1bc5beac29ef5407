/-
This file scores all functions of a source and gathers what is worth telling
about the way: syntax errors, and functions without a body.

A function that comes from the source can always be scored. That a function whose
scoring breaks down all the same is left out, with a diagnostic of its own, is
therefore not modelled; only a tree that is nested too deeply for the stack could
bring it about, and the stack is not part of the model.
-/

import Tangle.Score
import Tangle.Text.Quoted
import Tangle.Threshold

namespace Tangle

/-! ### Results -/

/-- The scores of one function. -/
structure FunctionReport where
  name : String
  line : Nat
  cyclomatic : Score
  cognitive : Score
  status : Status
deriving DecidableEq

/-- How serious a diagnostic is. -/
inductive Severity where
  | warning
  | error
deriving DecidableEq

def Severity.name : Severity → String
  | warning => "warning"
  | error => "error"

/-- A remark on the analysis of a file. -/
structure Diagnostic where
  severity : Severity
  message : String
  line : Option Nat
deriving DecidableEq

/-- The scores of the functions of one file. -/
structure FileReport where
  file : String
  functions : List FunctionReport
  diagnostics : List Diagnostic
deriving DecidableEq

/-- The analysis of one source: each function of it with its scores. -/
structure Analysis where
  source : Source
  functions : List (Node × FunctionReport)
  diagnostics : List Diagnostic

/-- The scores alone. -/
def Analysis.report (analysis : Analysis) : FileReport :=
  ⟨analysis.source.path, analysis.functions.map (·.2), analysis.diagnostics⟩

/-! ### Scoring one function -/

/-- Why something cannot be done with a node. -/
inductive NodeError where
  | notAFunction (kind : Kind)
  | treeRequired
  | ternaryWithoutCondition
deriving DecidableEq

def NodeError.message : NodeError → String
  | notAFunction kind => "Expected a function-like node, got " ++ Text.quoted kind.name
  | treeRequired => "A syntax tree is required to build a control flow graph"
  | ternaryWithoutCondition => "A ternary expression has no condition"

namespace Source

/-- Scores a function. Without a body there is nothing to score, which is remarked. -/
def scoreFunction (source : Source) (thresholds : Option Thresholds) (place : Place) :
    Logged (FunctionReport × Option Diagnostic) :=
  let name := place.name source
  let line := (source.position place.node).line
  let report (cyclomatic cognitive : Score) : FunctionReport :=
    ⟨name, line, cyclomatic, cognitive, classify thresholds cyclomatic.total⟩
  match place.node.body? with
  | none => do
    let path := source.path
    Logged.log .warning .scoring
      s!"{path}:{line}: function {name} has no body; reporting empty complexity"
    pure (report ⟨1, []⟩ ⟨0, []⟩, some ⟨.warning, s!"function {name} has no body", some line⟩)
  | some _ => pure (report (source.cyclomatic place.node) (source.cognitive place.node), none)

/-- Scores a node that must be a function. -/
def score (source : Source) (thresholds : Option Thresholds) (place : Place) :
    Except NodeError (Logged (FunctionReport × Option Diagnostic)) :=
  if place.node.isFunction then .ok (source.scoreFunction thresholds place)
  else .error (.notAFunction place.node.kind)

/-! ### Scoring a file -/

/-- The line of the first node that the parser could not read or had to make up. -/
def firstErrorLine? (source : Source) : Option Nat :=
  ((source.tree.root.descendants false).find? fun node =>
    node.kind == .error || node.isMissing).map fun node => (source.position node).line

/-- The remark on the syntax errors of a file, if it has any. -/
def errorDiagnostics (source : Source) : Logged (List Diagnostic) :=
  if source.tree.hasError then do
    let path := source.path
    let line := match source.firstErrorLine? with
      | some line => toString line
      | none => "None"
    Logged.log .warning .scoring s!"{path}: syntax errors near line {line}; results are best-effort"
    pure [⟨.warning, "syntax errors; results are best-effort", source.firstErrorLine?⟩]
  else pure []

/-- Scores every function of a source, in source order. -/
def analyze (source : Source) (thresholds : Option Thresholds) : Logged Analysis := do
  let errors ← source.errorDiagnostics
  let scored ← Logged.each source.functions (source.scoreFunction thresholds)
  let functions := (source.functions.map (·.node)).zip (scored.map (·.1))
  let path := source.path
  let count := functions.length
  Logged.log .debug .scoring s!"Analyzed {count} functions in {path}"
  pure ⟨source, functions, errors ++ scored.filterMap (·.2)⟩

end Source

end Tangle

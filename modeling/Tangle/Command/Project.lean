/-
This file scores all sources under a directory and sums the scores up. Files that
cannot be read are counted and left out; they change nothing for the others.
-/

import Tangle.Command.Action
import Tangle.Command.Request
import Tangle.StoredSource

namespace Tangle.Command.Project

/-- Prints the part of the result that is about one file; without functions there is none. -/
def printFile (report : FileReport) : Action Unit :=
  Action.onlyIf (!report.functions.isEmpty) do
    let file := report.file
    Action.print s!"=== {file} ==="
    printTable report
    Action.print ""
    remarkDiagnostics report

/-- Prints the result for people. -/
def printText (place : String) (found : Nat) (reports : List FileReport) (skipped : Nat)
    (page : Option String) : Action Unit := do
  Action.print s!"Found {found} file(s) in {place}\n"
  Action.each printFile reports
  let summary := summarize reports
  let files := summary.files
  let functions := summary.functions
  let errors := summary.errors
  let warnings := summary.warnings
  Action.print (s!"Analyzed {files} file(s), {functions} function(s): " ++
    s!"{errors} error(s), {warnings} warning(s)")
  Action.onlyIf (skipped != 0) (Action.print s!"Skipped {skipped} unreadable file(s)")
  announceReport page

/-- Prints the result as JSON. -/
def printJson (context : Context) (place : String) (thresholds : Thresholds)
    (reports : List FileReport) (skipped : List String) (page : Option String) : Action Unit :=
  context.printJson "project"
    ((summarize reports).members ++ [("skipped", .nat skipped.length)])
    [("root", .string place), ("thresholds", thresholds.toJson),
     ("files", .arr (reports.map FileReport.toJson)), ("skipped", .arr (skipped.map .string)),
     ("report", .option .string page)]

/-- Scores a project. -/
def run (context : Context) (request : ProjectRequest) : Action Unit := do
  let workspace ← Action.workspace
  let root := context.cwd.resolve (.ofText request.directory)
  let place := root.text
  let thresholds ← loadThresholds root
  let discovered ← Action.logged (Discovery.discover workspace root context.listing
    (Discovery.defaultExcludes ++ request.excludes) request.includeTests)
  let files ← Action.orStop haltOfNull discovered
  let found := files.length
  Action.log .debug .projectCommand s!"Discovered {found} file(s) under {place}"
  let analyzed ← Action.logged (workspace.analyzeAll root (some thresholds) files)
  let batch ← Action.orStop Halt.failed analyzed
  let reports := batch.reports
  let output := Path.ofText request.outputDir
  let page ← if request.html && !reports.isEmpty then
      some <$> writeReport context reports output
    else pure none
  if context.json then do
    printJson context place thresholds reports batch.skipped page
    keepGate request.failOnError reports thresholds
  else if files.isEmpty then
    Action.print s!"No JavaScript/TypeScript files found in {place}"
  else do
    printText place found reports batch.skipped.length page
    keepGate request.failOnError reports thresholds

end Tangle.Command.Project

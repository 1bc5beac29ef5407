/-
This file reads the sources of a workspace and scores them. A file that is no
source is refused before it is looked at; one that cannot be read is told apart,
because a batch goes on without it.
-/

import Tangle.Analysis
import Tangle.Workspace

namespace Tangle

/-- Why a file of the workspace is not a source. -/
inductive StoredError where
  | refused (failure : Failure)
  | unreadable (error : AccessError)
deriving DecidableEq

namespace Workspace

/-- The source in a file. It goes by the name `shown` from there on. -/
def source (workspace : Workspace) (cwd : Location) (path : Path) (shown : String) :
    Logged (Except StoredError Source) :=
  match Language.detect? path.text with
  | none => pure (.error (.refused (.unsupportedLanguage path.text)))
  | some language =>
    match workspace.readFile cwd path with
    | .error error => pure (.error (.unreadable error))
    | .ok content => do
      let bytes := Source.normalize content.bytes
      let source ← Source.ofTree shown (some language.name) bytes content.tree
      pure (source.mapError .refused)

/-- The scores of the functions in a file. -/
def analyze (workspace : Workspace) (cwd : Location) (thresholds : Option Thresholds)
    (path : Path) (shown : String) : Logged (Except StoredError Analysis) := do
  match ← workspace.source cwd path shown with
  | .error error => pure (.error error)
  | .ok source => pure (.ok (← source.analyze thresholds))

/-- What came of scoring a batch of files. -/
structure Batch where
  analyses : List Analysis
  skipped : List String

/-- Scores files that are named relative to a directory. Files that cannot be read are skipped. -/
def analyzeAll (workspace : Workspace) (root : Location) (thresholds : Option Thresholds) :
    List String → Logged (Except Failure Batch)
  | [] => pure (.ok ⟨[], []⟩)
  | file :: rest => do
    let path := root.path.join (.ofText file)
    match ← workspace.analyze .top thresholds path file with
    | .error (.refused failure) => pure (.error failure)
    | .error (.unreadable error) => do
      let reason := error.message path.text
      Logged.log .warning .projectCommand s!"Skipping {file}: {reason}"
      let others ← workspace.analyzeAll root thresholds rest
      pure (others.map fun batch => { batch with skipped := file :: batch.skipped })
    | .ok analysis => do
      let others ← workspace.analyzeAll root thresholds rest
      pure (others.map fun batch => { batch with analyses := analysis :: batch.analyses })

/-- The scores alone. -/
def Batch.reports (batch : Batch) : List FileReport :=
  batch.analyses.map Analysis.report

end Workspace

end Tangle

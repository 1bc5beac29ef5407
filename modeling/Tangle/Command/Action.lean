/-
This file says what running a command means. A command prints, logs and changes
files; an action is the function from the workspace that it finds to what it has
printed and logged, the workspace that it leaves, and its result or the reason
why it stopped. Commands are built from such actions, and nothing happens outside
of them.
-/

import Tangle.Config
import Tangle.Discovery
import Tangle.Envelope
import Tangle.Html
import Tangle.TextTable
import Tangle.Workspace.Change

namespace Tangle.Command

/-- One thing that a user can see of a run. -/
inductive Event where
  | output (text : String)
  | remark (text : String)
  | record (record : LogRecord)
deriving DecidableEq

/-- What goes wrong without the program having a word for it. -/
inductive Fault where
  | access (error : AccessError)
  | notText
  | node (error : NodeError)
  | nullInPath (null : NullInPath)
  | tooManyDigits (count : Nat)
  | overlong (overlong : Text.Overlong)
  | layout (error : TextTable.LayoutError)
deriving DecidableEq

/-- Why a command stops before its end. -/
inductive Halt where
  | failed (failure : Failure)
  | crashed (fault : Fault)
deriving DecidableEq

/-- What came of an action. -/
structure Outcome (α : Type) where
  events : List Event
  workspace : Workspace
  result : Except Halt α

/-- Something that a command does. -/
def Action (α : Type) : Type :=
  Workspace → Outcome α

namespace Action

/-- Does the first action, then the next one, unless the first one stopped. -/
def andThen (first : Action α) (next : α → Action β) : Action β := fun workspace =>
  let before := first workspace
  match before.result with
  | .error halt => ⟨before.events, before.workspace, .error halt⟩
  | .ok value =>
    let after := next value before.workspace
    ⟨before.events ++ after.events, after.workspace, after.result⟩

instance : Monad Action where
  pure value := fun workspace => ⟨[], workspace, .ok value⟩
  bind := andThen

/-! ### Basic actions -/

/-- The workspace as it is. -/
def workspace : Action Workspace := fun workspace =>
  ⟨[], workspace, .ok workspace⟩

def stop (halt : Halt) : Action α := fun workspace =>
  ⟨[], workspace, .error halt⟩

def event (event : Event) : Action Unit := fun workspace =>
  ⟨[event], workspace, .ok ()⟩

/-- Prints a line. -/
def print (line : String) : Action Unit :=
  event (.output (line ++ "\n"))

/-- Prints a line beside the output proper. -/
def remark (line : String) : Action Unit :=
  event (.remark (line ++ "\n"))

def log (level : Level) (channel : Channel) (message : String) : Action Unit :=
  event (.record ⟨level, channel, message⟩)

/-- Takes a value and passes on what was logged on the way to it. -/
def logged (value : Logged α) : Action α := fun workspace =>
  ⟨value.records.map .record, workspace, .ok value.value⟩

/-- Takes a result, or stops as told for the error. -/
def orStop (halt : ε → Halt) : Except ε α → Action α
  | .ok value => pure value
  | .error error => stop (halt error)

/-- Changes the files, and stops if that could not be done. -/
def change (step : Workspace → Workspace.Changed) : Action Unit := fun workspace =>
  let changed := step workspace
  ⟨[], changed.workspace, changed.result.mapError fun error => .crashed (.access error)⟩

/-- Does something with each item in turn. -/
def each (step : α → Action Unit) : List α → Action Unit
  | [] => pure ()
  | item :: rest => andThen (step item) fun _ => each step rest

/-- Does something only under a condition. -/
def onlyIf (condition : Bool) (action : Action Unit) : Action Unit :=
  if condition then action else pure ()

end Action

/-! ### What all commands share -/

/-- What a command finds besides the files: the directory it runs in, what version control lists,
and the time. -/
structure Surroundings where
  cwd : Location
  listing : Discovery.Listing
  now : Moment

/-- What holds while a command runs: its surroundings, and whether output is to be JSON. -/
structure Context extends Surroundings where
  json : Bool

namespace Context

/-- The name of the directory that a command runs in. -/
def project (context : Context) : String :=
  context.cwd.parts.getLast?.getD ""

/-- Prints a result in its envelope. -/
def printJson (context : Context) (command : String) (summary : List (String × Json))
    (payload : List (String × Json)) : Action Unit :=
  Action.print (envelope ⟨context.project, context.now⟩ command (.object summary) payload).text

end Context

/-- Why the thresholds could not be had. -/
def haltOfLoad : Config.LoadError → Halt
  | .failure failure => .failed failure
  | .notText => .crashed .notText
  | .unreachable error => .crashed (.access error)
  | .nullInPath null => .crashed (.nullInPath null)
  | .tooManyDigits count => .crashed (.tooManyDigits count)
  | .overlong overlong => .crashed (.overlong overlong)

/-- Why files could not be discovered. -/
def haltOfNull (null : NullInPath) : Halt :=
  .crashed (.nullInPath null)

/-- Why there is no table. -/
def haltOfLayout (error : TextTable.LayoutError) : Halt :=
  .crashed (.layout error)

/-- A bound as it is logged. -/
def boundText : Option Int → String
  | some bound => toString bound
  | none => "None"

/-- The thresholds that hold for a directory. -/
def loadThresholds (start : Location) : Action Thresholds := do
  let workspace ← Action.workspace
  let loaded ← Action.logged (Config.thresholds Config.FileFault.message workspace start)
  let thresholds ← Action.orStop haltOfLoad loaded
  let warning := boundText thresholds.warning
  let error := boundText thresholds.error
  Action.log .debug .settings s!"Thresholds: warning={warning} error={error}"
  pure thresholds

/-- Stops if the gate is to be kept and some function has reached the error threshold. -/
def keepGate (failOnError : Bool) (reports : List FileReport) (thresholds : Thresholds) :
    Action Unit :=
  Action.onlyIf failOnError (Action.orStop Halt.failed (checkGate reports thresholds))

/-- The name of the report file. -/
def reportName : String := "complexity-report.html"

/-- Writes the report and tells where it is. -/
def writeReport (context : Context) (reports : List FileReport) (directory : Path) :
    Action String := do
  Action.change fun workspace => workspace.makeDirectories context.cwd directory true
  Action.change fun workspace =>
    workspace.writeFile context.cwd directory reportName (Html.page reports)
  let path := (directory.join ⟨.here, [reportName]⟩).text
  Action.log .debug .report s!"Wrote HTML report to {path}"
  pure path

/-- The remarks on a file, beside the output proper. -/
def remarkDiagnostics (report : FileReport) : Action Unit :=
  Action.each (fun diagnostic =>
    let place := TextTable.location report.file (diagnostic.line.map Int.ofNat)
    Action.remark (diagnostic.severity.name ++ ": " ++ place ++ ": " ++ diagnostic.message))
    report.diagnostics

/-- The table of the functions of a file. -/
def printTable (report : FileReport) : Action Unit := do
  let table ← Action.orStop haltOfLayout (TextTable.functionTable report)
  Action.print (String.ofList table)

/-- Tells where a report is. -/
def announceReport : Option String → Action Unit
  | some path => Action.print ("\nHTML report written to " ++ path)
  | none => pure ()

end Tangle.Command

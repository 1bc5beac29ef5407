/-
This file is the command line as a whole: it finds out what is asked for, does it,
and says how that ended. A run is a function of the words of the command line, the
surroundings and the workspace.
-/

import Tangle.Command.Callpath
import Tangle.Command.File
import Tangle.Command.FlowChart
import Tangle.Command.Help
import Tangle.Command.Project
import Tangle.Text.ControlSequence

namespace Tangle.Command

/-! ### What is asked for -/

/-- What a command line asks for. -/
inductive Demand where
  | work (json verbose : Bool) (request : Request)
  | explanation (text : String)
  | nothing
  | misuse (grammar : Grammar) (error : UsageError)
  | fault (fault : Fault)

/-- What the program says about its version. -/
def versionText : String :=
  programName ++ ", version " ++ version ++ "\n"

/-- What is shown instead of doing any work: help or the version, whichever is asked for first. -/
def explanation? (grammar : Grammar) (commands : List (String × Grammar)) (words : Words) :
    Option String :=
  words.given.findSome? fun (key, _) =>
    match key with
    | .help => some (grammar.help commands)
    | .version => some versionText
    | _ => none

/-- The request that is made of a command by its name. -/
def requestOf (name : String) (words : Words) (assigned : Assigned) : Request :=
  match name with
  | "file" => .file (fileRequest words assigned)
  | "project" => .project (projectRequest words assigned)
  | "callpath" => .callpath (callpathRequest words assigned)
  | _ => .graph (graphRequest words assigned)

/-- What is asked of a command. -/
def demandOf (look : Look) (top : Words) (name : String) (grammar : Grammar)
    (arguments : List String) : Demand :=
  match readWords grammar.options true arguments with
  | .error error => .misuse grammar error
  | .ok words =>
    match explanation? grammar [] words with
    | some text => .explanation text
    | none =>
      match grammar.assign look words with
      | .error (.usage error) => .misuse grammar error
      | .error (.nullInPath null) => .fault (.nullInPath null)
      | .ok assigned =>
        .work (top.isOn .json false) (top.isOn .verbose false) (requestOf name words assigned)

/-- What to make of a word that is no command. One that looks like an option is taken for one, so
that the fault of the option is reported. -/
def strayDemand (name : String) (arguments : List String) : Demand :=
  let stray := Demand.misuse topGrammar (.noSuchCommand name)
  if name.toList.head? == some '-' then
    match readWords topGrammar.options false (name :: arguments) with
    | .error error => .misuse topGrammar error
    | .ok words =>
      match explanation? topGrammar subcommands words with
      | some text => .explanation text
      | none => stray
  else stray

/-- What a whole command line asks for. -/
def demand (look : Look) (arguments : List String) : Demand :=
  if arguments.isEmpty then .nothing
  else
    match readWords topGrammar.options false arguments with
    | .error error => .misuse topGrammar error
    | .ok top =>
      match explanation? topGrammar subcommands top, top.rest with
      | some text, _ => .explanation text
      | none, [] => .misuse topGrammar .commandMissing
      | none, name :: rest =>
        match subcommands.lookup name with
        | none => strayDemand name rest
        | some grammar => demandOf look top name grammar rest

/-! ### Runs -/

/-- How a run ended and what it leaves behind. -/
structure Run where
  exitCode : Int
  output : String
  errors : String
  fault : Option Fault
  workspace : Workspace

/-- Does what is requested. -/
def Request.perform (context : Context) : Request → Action Unit
  | file request => File.run context request
  | project request => Project.run context request
  | callpath request => Callpath.run context request
  | graph request => FlowChart.run context request

/-- What an event adds to the output proper, without control sequences. -/
def Event.outputText : Event → String
  | output text => Text.withoutSequences text
  | _ => ""

/-- What an event adds beside the output. Records are shown as they are, but not those below the
given level. -/
def Event.errorText (least : Level) : Event → String
  | output _ => ""
  | remark text => Text.withoutSequences text
  | record entry => if least.rank ≤ entry.level.rank then entry.line ++ "\n" else ""

/-- The exit code of a command that ended so. -/
def exitCodeOf : Except Halt Unit → Int
  | .ok () => 0
  | .error (.failed failure) => failure.exitCode
  | .error (.crashed _) => 1

/-- The last words of a command that failed. -/
def lastWords : Except Halt Unit → String
  | .error (.failed failure) => Text.withoutSequences ("Error: " ++ failure.message ++ "\n")
  | _ => ""

/-- What went wrong without a word for it. -/
def faultOf? : Except Halt Unit → Option Fault
  | .error (.crashed fault) => some fault
  | _ => none

/-- What is shown in the end has one kind of line end. -/
def shownText (parts : List String) : String :=
  String.ofList (Text.unpairBreaks (String.join parts).toList)

/-- The run that has come out so. -/
def Outcome.run (outcome : Outcome Unit) (verbose : Bool) : Run where
  exitCode := exitCodeOf outcome.result
  output := shownText (outcome.events.map Event.outputText)
  errors :=
    let least := if verbose then Level.debug else Level.warning
    shownText (outcome.events.map (Event.errorText least) ++ [lastWords outcome.result])
  fault := faultOf? outcome.result
  workspace := outcome.workspace

/-- The exit code of a command line that cannot be followed. -/
def usageExitCode : Int := 2

/-- Runs the program on the words of a command line. -/
def run (surroundings : Surroundings) (workspace : Workspace) (arguments : List String) : Run :=
  match demand (workspace.findText surroundings.cwd) arguments with
  | .work json verbose request =>
    (request.perform ⟨surroundings, json⟩ workspace).run verbose
  | .explanation text => ⟨0, text, "", none, workspace⟩
  | .nothing => ⟨usageExitCode, "", topGrammar.help subcommands, none, workspace⟩
  | .misuse grammar error =>
    let complaint := Text.withoutSequences (grammar.complaint error)
    ⟨usageExitCode, "", shownText [complaint], none, workspace⟩
  | .fault fault => ⟨exitCodeOf (.error (.crashed fault)), "", "", some fault, workspace⟩

end Tangle.Command

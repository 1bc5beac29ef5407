/-
This file reads thresholds from configuration. A configuration file of its own
comes before a section of a package file; both are looked for from a directory
upwards. Keys come in two spellings, a value is a non-negative integer or null,
and null means the default.
-/

import Tangle.Failure
import Tangle.Json.Describe
import Tangle.Json.Reader
import Tangle.Log
import Tangle.Text.LineBreak
import Tangle.Text.Utf8
import Tangle.Threshold
import Tangle.Workspace

namespace Tangle.Config

open Text (CodePoint)

/-! ### Settings -/

/-- The thresholds that can be set. -/
inductive Setting where
  | warning
  | error
deriving DecidableEq

def Setting.key : Setting → String
  | warning => "cyclomatic_warning"
  | error => "cyclomatic_error"

/-- The setting that a key stands for. -/
def Setting.ofKey? : String → Option Setting
  | "cyclomaticWarning" => some warning
  | "cyclomatic_warning" => some warning
  | "cyclomaticError" => some error
  | "cyclomatic_error" => some error
  | _ => none

/-- A mapping of keys to values as it is written down. -/
abbrev Mapping := List (List CodePoint × Json)

/-- The settings that a mapping makes, in order; null is kept. -/
abbrev Values := List (Setting × Option Nat)

/-- The number that a value stands for; `none` if it is none. -/
def threshold? : Json → Option (Option Nat)
  | .null => some none
  | .int value => if 0 ≤ value then some (some value.toNat) else none
  | _ => none

/-- Why a mapping makes no settings: a value is no threshold, and perhaps cannot even be shown. -/
inductive Objection where
  | failure (failure : Failure)
  | overlong (overlong : Text.Overlong)
deriving DecidableEq

/-- What is said against a value that is no threshold. -/
def objection (name : String) (value : Json) : Objection :=
  match value.describe? with
  | some shown =>
    let shown := String.ofList shown
    .failure (.invalidConfiguration s!"{name} must be a non-negative integer, got {shown}")
  | none => .overlong .found

/-- Takes the settings out of a mapping, behind those already made. Unknown keys are passed over
with a warning; the first value that is no threshold ends it all. -/
def normalizeOnto (values : Values) : Mapping → Logged (Except Objection Values)
  | [] => pure (.ok values)
  | (key, value) :: rest =>
    match (CodePoint.toString? key).bind fun name => (Setting.ofKey? name).map (name, ·) with
    | none => do
      let shown := String.ofList (Text.quote key)
      Logged.log .warning .configuration s!"Ignoring unknown configuration key {shown}"
      normalizeOnto values rest
    | some (name, setting) =>
      match threshold? value with
      | some threshold => normalizeOnto (Ordered.put values setting threshold) rest
      | none => pure (.error (objection name value))

/-- The settings of a mapping. -/
def normalize (mapping : Mapping) : Logged (Except Objection Values) :=
  normalizeOnto [] mapping

/-- Settings as a mapping again. -/
def Values.toMapping (values : Values) : Mapping :=
  values.map fun (setting, threshold) =>
    (CodePoint.ofString setting.key, .option .nat threshold)

/-- The thresholds when nothing is said. -/
def defaults : Thresholds := ⟨some 10, some 20⟩

/-- The value of a setting, unless it is absent or null. -/
def Values.get? (values : Values) (setting : Setting) : Option Int :=
  ((Ordered.get? values setting).bind id).map Int.ofNat

/-- The defaults with the settings put over them. -/
def Values.overlay (values : Values) : Thresholds :=
  ⟨values.get? .warning <|> defaults.warning, values.get? .error <|> defaults.error⟩

/-- The thresholds that a mapping asks for. -/
def create (mapping : Mapping) : Logged (Except Objection Thresholds) := do
  pure ((← normalize mapping).map Values.overlay)

/-! ### Files -/

/-- The name of the configuration file. -/
def fileName : String := ".onion-tears.json"

/-- The name of the package file. -/
def packageFileName : String := "package.json"

/-- The key of the section in the package file. -/
def packageKey : String := "onion-tears"

/-- Why the thresholds cannot be told. -/
inductive LoadError where
  | failure (failure : Failure)
  | notText
  | unreachable (error : AccessError)
  | nullInPath (null : NullInPath)
  | tooManyDigits (count : Nat)
  | overlong (overlong : Text.Overlong)
deriving DecidableEq

def LoadError.ofObjection : Objection → LoadError
  | .failure cause => .failure cause
  | .overlong cause => .overlong cause

/-- The beginnings of a list of names, the longest first; the names come last first. -/
def beginnings : (names : List String) → List (List String)
  | [] => [[]]
  | last :: above => (last :: above).reverse :: beginnings above

/-- The directories from a place upwards, to the root of all files. -/
def upwards (start : Location) : List Location :=
  (beginnings start.parts.reverse).map Location.mk

/-- The first of several directories that has the file, with the path and the content of it. -/
def firstWith? (workspace : Workspace) (name : Path) :
    List Location → Except AccessError (Option (Path × StoredFile))
  | [] => .ok none
  | directory :: others =>
    let candidate := directory.path.join name
    match workspace.fileAt? .top candidate with
    | .error error => .error error
    | .ok (some content) => .ok (some (candidate, content))
    | .ok none => firstWith? workspace name others

/-- The nearest file of the given name, from a place upwards. -/
def findFile? (workspace : Workspace) (start : Location) (name : String) :
    Except LoadError (Option (Path × StoredFile)) :=
  if start.parts.any hasNull then .error (.nullInPath .found)
  else (firstWith? workspace (.ofText name) (upwards start)).mapError .unreachable

/-- What is wrong with a file that is passed over: it refuses to be read, or its text is no JSON. -/
inductive FileFault where
  | refused (error : AccessError) (path : String)
  | malformed (error : Json.ReadError) (text : List Char)

def FileFault.message : FileFault → String
  | refused error path => error.message path
  | malformed error text => error.message text

/-- How a fault in a file is reported: in full where people read it. -/
abbrev FaultText := FileFault → String

/-- The value in a text, or the fault that keeps it from being one. Numbers are read only up to a
length. -/
def readValue (text : List Char) : Except LoadError (Except FileFault Json) :=
  match Json.parse text with
  | .ok value => .ok (.ok value)
  | .error ⟨.tooManyDigits count, _⟩ => .error (.tooManyDigits count)
  | .error error => .ok (.error (.malformed error text))

/-- The value in a file, or the fault that keeps it from having one. Only text can be read. -/
def readJson (path : String) (content : StoredFile) :
    Except LoadError (Except FileFault Json) :=
  match content.opened with
  | .error error => .ok (.error (.refused error path))
  | .ok content =>
    match Text.Utf8.decode? content.bytes with
    | none => .error .notText
    | some chars => readValue (Text.unifyBreaks chars)

/-- Settings or the reason why there are none. -/
abbrev Loaded := Logged (Except LoadError Values)

/-- Normalizes the settings of a file that was read. -/
def loadMapping (path : String) (mapping : Mapping) : Loaded := do
  Logged.log .debug .configuration s!"Loaded configuration from {path}"
  pure ((← normalize mapping).mapError .ofObjection)

/-- Settings from the section of the package file, if there is one. -/
def loadPackage (faultText : FaultText) (workspace : Workspace) (start : Location) : Loaded :=
  match findFile? workspace start packageFileName with
  | .error error => pure (.error error)
  | .ok none => pure (.ok [])
  | .ok (some (found, content)) =>
    let path := found.text
    match readJson path content with
    | .error error => pure (.error error)
    | .ok (.error fault) => do
      let reason := faultText fault
      Logged.log .warning .configuration s!"Failed to read {path}: {reason}"
      pure (.ok [])
    | .ok (.ok value) =>
      match value.get? packageKey with
      | some (.obj mapping) => loadMapping path mapping
      | _ => pure (.ok [])

/-- Settings for a project: from the configuration file if it holds an object, or else from the
package file. -/
def load (faultText : FaultText) (workspace : Workspace) (start : Location) : Loaded :=
  match findFile? workspace start fileName with
  | .error error => pure (.error error)
  | .ok none => loadPackage faultText workspace start
  | .ok (some (found, content)) =>
    let path := found.text
    match readJson path content with
    | .error error => pure (.error error)
    | .ok (.error fault) => do
      let reason := faultText fault
      Logged.log .warning .configuration s!"Failed to parse {path}: {reason}"
      loadPackage faultText workspace start
    | .ok (.ok (.obj mapping)) => loadMapping path mapping
    | .ok (.ok _) => do
      Logged.log .warning .configuration s!"Ignoring {path}: expected a JSON object"
      loadPackage faultText workspace start

/-- The thresholds of a project. -/
def thresholds (faultText : FaultText) (workspace : Workspace) (start : Location) :
    Logged (Except LoadError Thresholds) := do
  match ← load faultText workspace start with
  | .error error => pure (.error error)
  | .ok values => pure ((← create values.toMapping).mapError .ofObjection)

end Tangle.Config

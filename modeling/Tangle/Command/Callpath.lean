/-
This file shows who calls a function, across all sources under the given files
and directories.
-/

import Tangle.Command.Action
import Tangle.Command.Request
import Tangle.Report

namespace Tangle.Command.Callpath

/-- The files under a path: all sources of a directory, or the file itself. -/
def filesAt (context : Context) (workspace : Workspace) (includeTests : Bool) (text : String) :
    Logged (Except NullInPath (List Path)) :=
  let place := context.cwd.resolve (.ofText text)
  match workspace.entryAt? place with
  | some (.directory _) => do
    let files ← Discovery.discover workspace place context.listing Discovery.defaultExcludes
      includeTests
    pure (files.map fun files => files.map fun file => place.path.join (.ofText file))
  | _ => pure (.ok [place.path])

/-- The text in a file; one that cannot be read is skipped. What is read has to be well-formed. -/
def readInput (workspace : Workspace) (path : Path) :
    Logged (Except Fault (Option CallerTree.Input)) :=
  let name := path.text
  match workspace.readFile .top path with
  | .ok content =>
    match Text.Utf8.decode? (Source.normalize content.bytes) with
    | some text => pure (.ok (some ⟨name, Text.Utf8.encode text, content.tree⟩))
    | none => pure (.error .notText)
  | .error error => do
    let reason := error.message name
    Logged.log .warning .callpathCommand s!"Skipping {name}: {reason}"
    pure (.ok none)

/-- The texts in several files. -/
def readInputs (workspace : Workspace) :
    List Path → Logged (Except Fault (List CallerTree.Input))
  | [] => pure (.ok [])
  | path :: rest => do
    match ← readInput workspace path with
    | .error fault => pure (.error fault)
    | .ok input => do
      let others ← readInputs workspace rest
      pure (others.map (input.toList ++ ·))

/-- The texts in all files under the given paths. -/
def collect (context : Context) (workspace : Workspace) (includeTests : Bool) :
    List String → Logged (Except Fault (List CallerTree.Input))
  | [] => pure (.ok [])
  | start :: rest => do
    match ← filesAt context workspace includeTests start with
    | .error null => pure (.error (.nullInPath null))
    | .ok files => do
      match ← readInputs workspace files with
      | .error fault => pure (.error fault)
      | .ok read => do
        let others ← collect context workspace includeTests rest
        pure (others.map (read ++ ·))

/-- Shows the callers of a function. -/
def run (context : Context) (request : CallpathRequest) : Action Unit := do
  let workspace ← Action.workspace
  let starts := if request.paths.isEmpty then ["."] else request.paths
  let collected ← Action.logged (collect context workspace request.includeTests starts)
  let inputs ← Action.orStop Halt.crashed collected
  let tree ← Action.logged (CallerTree.across inputs request.function request.depth)
  let name := request.function
  let scanned := inputs.length
  let direct := tree.callers.length
  let found := tree.file != CallerTree.unknownFile
  let paths := if tree.callers.isEmpty then 0 else tree.paths.length
  let showFile := context.cwd.relativePath
  if context.json then
    context.printJson "callpath"
      [("function", .string name), ("found", .bool found), ("files_scanned", .nat scanned),
       ("direct_callers", .nat direct), ("paths", .nat paths)]
      [("tree", tree.toJson showFile)]
  else if !found then
    Action.print s!"Function {name}() not found in {scanned} file(s)."
  else do
    Action.event (.output (tree.render showFile ""))
    Action.print s!"\n{direct} direct caller(s), {paths} call path(s)"

end Tangle.Command.Callpath

/-
This file runs the program on a snapshot of a project. The snapshot comes as JSON
on standard input: the files with the syntax trees of the sources, what version
control lists, and the time. The words of the command line are the arguments.
What the run changes is written to the directory that the program was started in.
-/

import Tangle.Command
import Tangle.Json.Reader
import Tangle.Snapshot

namespace Tangle

/-- What a run needs to know of the project it works on. -/
structure Scene where
  root : Location
  surroundings : Command.Surroundings
  workspace : Workspace

/-- The scene that a snapshot describes. -/
def Scene.ofJson? (snapshot : Json) : Option Scene := do
  let root := Location.top.resolve (.ofText (← snapshot.stringAt? "root"))
  let workspace ← Snapshot.workspace? root (snapshot.itemsAt "files")
  let now ← Snapshot.moment? (← snapshot.get? "now")
  let cwd := root.resolve (.ofText ((snapshot.stringAt? "cwd").getD ""))
  pure ⟨root, ⟨cwd, Snapshot.listing (snapshot.present? "git"), now⟩, workspace⟩

/-- The directory that a path leads through, as text. -/
def directoryOf (path : String) : String :=
  "/".intercalate ((pathParts path.toList).dropLast)

/-- Writes to disk what a run has changed under a root. -/
def saveChanges (root : Location) (before after : Workspace) : IO Unit := do
  for path in before.removedSince after root do
    IO.FS.removeFile path
  for (path, bytes) in before.writtenSince after root do
    let directory := directoryOf path
    if !directory.isEmpty then IO.FS.createDirAll directory
    IO.FS.writeBinFile path (ByteArray.mk bytes.toArray)

/-- Runs the program in a scene. -/
def Scene.play (scene : Scene) (arguments : List String) : IO UInt32 := do
  let run := Command.run scene.surroundings scene.workspace arguments
  saveChanges scene.root scene.workspace run.workspace
  (← IO.getStdout).putStr run.output
  (← IO.getStderr).putStr run.errors
  pure (UInt32.ofNat run.exitCode.toNat)

/-- Says what is wrong with the input. -/
def complain (what : String) : IO UInt32 := do
  IO.eprintln what
  pure 1

end Tangle

def main (arguments : List String) : IO UInt32 := do
  let text := (← (← IO.getStdin).readToEnd).toList
  match Tangle.Json.parse text with
  | .error error => Tangle.complain (error.message text)
  | .ok snapshot =>
    match Tangle.Scene.ofJson? snapshot with
    | some scene => scene.play arguments
    | none => Tangle.complain "The snapshot cannot be read."

/-
This file changes the files of a workspace: it makes directories, writes files
and removes them. A change may come to nothing half way, so it leaves a workspace
behind in any case, and tells whether it could be made.
-/

import Tangle.Text.Utf8
import Tangle.Workspace

namespace Tangle.Workspace

/-- What a change leaves behind, and whether it could be made. -/
structure Changed where
  workspace : Workspace
  result : Except AccessError Unit

/-- A change that was made. -/
def changed (workspace : Workspace) : Changed :=
  ⟨workspace, .ok ()⟩

/-- A change that could not be made. -/
def refused (workspace : Workspace) (error : AccessError) : Changed :=
  ⟨workspace, .error error⟩

/-- The workspace with an entry put at a place. -/
def put (workspace : Workspace) (location : Location) (entry : Entry) : Workspace :=
  ⟨workspace.top.insert entry location.parts⟩

/-- The workspace without what is at a place. -/
def take (workspace : Workspace) (location : Location) : Workspace :=
  ⟨workspace.top.remove location.parts⟩

/-! ### Directories -/

/-- Makes one directory. The directory that is to hold it has to be there, and it must not be there
itself. -/
def makeDirectory (workspace : Workspace) (cwd : Location) (path : Path) :
    Except AccessError Workspace :=
  if longestPath < path.text.utf8ByteSize then .error .nameTooLong
  else
    match path.parts.getLast? with
    | none => .error .alreadyExists
    | some last =>
      match workspace.follow (cwd.start path.anchor) path.parts.dropLast with
      | .error error => .error error
      | .ok (_, .file _) => .error .notADirectory
      | .ok (location, .directory _) =>
        let target := location.step last
        if last == ".." then .error .alreadyExists
        else if longestName < last.utf8ByteSize then .error .nameTooLong
        else if (workspace.entryAt? target).isSome then .error .alreadyExists
        else .ok (workspace.put target (.directory []))

/-- Makes one directory; if told so, one that is there already will do. -/
def needDirectory (workspace : Workspace) (cwd : Location) (path : Path) (mayExist : Bool) :
    Changed :=
  match workspace.makeDirectory cwd path with
  | .ok after => after.changed
  | .error error =>
    if error != .notFound && mayExist && workspace.isDirectory cwd path then workspace.changed
    else workspace.refused error

/-- Makes a directory and, where the way to it is missing, the directories above it first. The
names that lead to it come last first. -/
def makeWay (cwd : Location) (anchor : Anchor) :
    (mayExist : Bool) → (names : List String) → Workspace → Changed
  | mayExist, [], workspace => workspace.needDirectory cwd ⟨anchor, []⟩ mayExist
  | mayExist, last :: above, workspace =>
    let path : Path := ⟨anchor, (last :: above).reverse⟩
    let first := workspace.needDirectory cwd path mayExist
    match first.result with
    | .error .notFound =>
      let way := makeWay cwd anchor true above workspace
      match way.result with
      | .error error => way.workspace.refused error
      | .ok () => way.workspace.needDirectory cwd path mayExist
    | _ => first

/-- Makes a directory and those above it. -/
def makeDirectories (workspace : Workspace) (cwd : Location) (path : Path) (mayExist : Bool) :
    Changed :=
  makeWay cwd path.anchor mayExist path.parts.reverse workspace

/-! ### Files -/

/-- The file that holds a text after it was written. One that was there before keeps its rights. -/
def overwritten (before : Option Entry) (text : String) : StoredFile where
  bytes := Text.Utf8.encode text.toList
  tree := Tree.empty
  readable :=
    match before with
    | some (.file content) => content.readable
    | _ => true

/-- Writes text to the file of the given name in a directory. -/
def writeFile (workspace : Workspace) (cwd : Location) (directory : Path) (name text : String) :
    Changed :=
  let whole := directory.join ⟨.here, [name]⟩
  if longestPath < whole.text.utf8ByteSize then workspace.refused .nameTooLong
  else
    match workspace.find cwd directory with
    | .error error => workspace.refused error
    | .ok (_, .file _) => workspace.refused .notADirectory
    | .ok (location, .directory _) =>
      let target := location.step name
      if longestName < name.utf8ByteSize then workspace.refused .nameTooLong
      else
        match workspace.entryAt? target with
        | some (.directory _) => workspace.refused .isADirectory
        | before => (workspace.put target (.file (overwritten before text))).changed

/-- Removes the given entries of a directory, one after the other. Only files can be removed. -/
def removeFiles (workspace : Workspace) (directory : Location) : List (String × Entry) → Changed
  | [] => workspace.changed
  | (_, .directory _) :: _ => workspace.refused .isADirectory
  | (name, .file _) :: rest =>
    (workspace.take (directory.step name)).removeFiles directory rest

/-- Removes the files of a directory whose names end as given. -/
def removeEnding (workspace : Workspace) (cwd : Location) (directory : Path) (ending : String) :
    Changed :=
  match workspace.find cwd directory with
  | .ok (location, .directory entries) =>
    workspace.removeFiles location
      (entries.filter fun (name, _) => ending.toList.isSuffixOf name.toList)
  | _ => workspace.changed

/-! ### Comparing -/

/-- The files under a place with the names that lead to them from there. -/
def files (workspace : Workspace) (root : Location) : List (List String × StoredFile) :=
  ((workspace.entryAt? root).map (Entry.filesFrom (fun _ => false) [])).getD []

/-- The files under a place by path and content, sorted by path. -/
def contents (workspace : Workspace) (root : Location) : List (String × List UInt8) :=
  ((workspace.files root).map fun (parts, file) => ("/".intercalate parts, file.bytes)).mergeSort
    fun a b => decide (a.1 ≤ b.1)

/-- The files under a place that are new since an earlier state or have another content. -/
def writtenSince (earlier later : Workspace) (root : Location) : List (String × List UInt8) :=
  let before := earlier.contents root
  (later.contents root).filter fun (path, bytes) => before.lookup path != some bytes

/-- The files under a place that are gone since an earlier state. -/
def removedSince (earlier later : Workspace) (root : Location) : List String :=
  let after := later.contents root
  ((earlier.contents root).map (·.1)).filter fun path => (after.lookup path).isNone

end Tangle.Workspace

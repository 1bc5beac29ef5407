/-
This file models the files that the program sees: one tree of directories from
the root of all files, and the ways in which paths lead through it. A path starts
at that root or where one is. Following a path visits each of its parts in turn,
so every part but the last has to be a directory; resolving a path only looks at
the names. A file may refuse to be read. Directories never refuse to be searched,
and no entry stands for another one.
-/

import Tangle.Ordered
import Tangle.Text.Quoted
import Tangle.Text.Slice
import Tangle.Tree

namespace Tangle

/-! ### Paths -/

/-- Where a path starts: where one is, or at the root of all files. -/
inductive Anchor where
  | here
  | top
deriving DecidableEq

/-- A path by its parts, without empty parts and single dots. -/
structure Path where
  anchor : Anchor
  parts : List String
deriving DecidableEq

/-- The parts of a text between slashes that name something. -/
def pathParts (text : List Char) : List String :=
  ((Text.pieces '/' text).map String.ofList).filter fun part => part != "" && part != "."

namespace Path

/-- The path that a text spells. -/
def ofText (text : String) : Path :=
  ⟨if text.toList.head? == some '/' then .top else .here, pathParts text.toList⟩

/-- The text of a path. -/
def text (path : Path) : String :=
  match path.anchor with
  | .here => if path.parts.isEmpty then "." else "/".intercalate path.parts
  | .top => "/" ++ "/".intercalate path.parts

/-- A path that goes on from another one, unless it has a start of its own. -/
def join (base path : Path) : Path :=
  match path.anchor with
  | .here => ⟨base.anchor, base.parts ++ path.parts⟩
  | .top => path

end Path

/-! ### Places -/

/-- A place by the names that lead to it from the root of all files. -/
structure Location where
  parts : List String
deriving DecidableEq

namespace Location

/-- The root of all files. -/
def top : Location := ⟨[]⟩

/-- The path that leads to a place from wherever one is. -/
def path (location : Location) : Path :=
  ⟨.top, location.parts⟩

/-- The text of a place. -/
def text (location : Location) : String :=
  location.path.text

/-- The directory above a place. Above the root of all files there is nothing but itself. -/
def parent (location : Location) : Location :=
  ⟨location.parts.dropLast⟩

/-- One step down or up by name alone. -/
def step (location : Location) (part : String) : Location :=
  if part == ".." then location.parent else ⟨location.parts ++ [part]⟩

/-- The place that a path starts from, seen from the place one is at. -/
def start (cwd : Location) : Anchor → Location
  | .here => cwd
  | .top => top

/-- The place that a path names, seen from the place one is at. -/
def resolve (cwd : Location) (path : Path) : Location :=
  path.parts.foldl step (cwd.start path.anchor)

/-- What two lists have in common at their start is dropped from both. -/
def dropCommon : List String → List String → List String × List String
  | a :: as, b :: bs => if a = b then dropCommon as bs else (a :: as, b :: bs)
  | as, bs => (as, bs)

/-- The way from one place to another, by name alone. -/
def relativeTo (cwd location : Location) : String :=
  let (back, forth) := dropCommon cwd.parts location.parts
  (⟨.here, back.map (fun _ => "..") ++ forth⟩ : Path).text

/-- Backslashes as slashes. -/
def forwardSlashes (text : String) : String :=
  text.map fun c => if c == '\\' then '/' else c

/-- A path as seen from the place one is at, with forward slashes. -/
def relativePath (cwd : Location) (text : String) : String :=
  if text.isEmpty then ""
  else forwardSlashes (cwd.relativeTo (cwd.resolve (.ofText text)))

end Location

/-! ### Files and directories -/

/-- A file: its bytes, the syntax tree of the text that is read from them, and whether it may be
read. -/
structure StoredFile where
  bytes : List UInt8
  tree : Tree
  readable : Bool := true

/-- A file or a directory with its entries by name. -/
inductive Entry where
  | file (content : StoredFile)
  | directory (entries : List (String × Entry))

namespace Entry

def isDirectory : Entry → Bool
  | directory _ => true
  | file _ => false

/-- The entry of a directory with the given name. -/
def child? (entry : Entry) (name : String) : Option Entry :=
  match entry with
  | directory entries => Ordered.get? entries name
  | file _ => none

/-- The entry at the end of the given names. -/
def at? (entry : Entry) : List String → Option Entry
  | [] => some entry
  | name :: rest => (entry.child? name).bind (·.at? rest)

/-- Puts an entry at the end of the given names; directories on the way are made where they are
missing. Files on the way are left as they are. -/
def insert (entry new : Entry) : List String → Entry
  | [] => new
  | name :: rest =>
    match entry with
    | file content => file content
    | directory entries =>
      let below := (Ordered.get? entries name).getD (directory [])
      directory (Ordered.put entries name (below.insert new rest))

/-- Takes away the entry at the end of the given names. -/
def remove (entry : Entry) : List String → Entry
  | [] => entry
  | name :: rest =>
    match entry with
    | file content => file content
    | directory entries =>
      if rest.isEmpty then directory (entries.filter (·.1 ≠ name))
      else
        match Ordered.get? entries name with
        | none => directory entries
        | some below => directory (Ordered.put entries name (below.remove rest))

end Entry

mutual

/-- The files below an entry with the names that lead to them, without the directories that `cut`
picks out by name. -/
def Entry.filesFrom (cut : String → Bool) (above : List String) :
    Entry → List (List String × StoredFile)
  | .file content => [(above.reverse, content)]
  | .directory entries => Entry.filesFromAll cut above entries

def Entry.filesFromAll (cut : String → Bool) (above : List String) :
    List (String × Entry) → List (List String × StoredFile)
  | [] => []
  | (name, .file content) :: rest =>
    ((name :: above).reverse, content) :: Entry.filesFromAll cut above rest
  | (name, .directory entries) :: rest =>
    (if cut name then [] else Entry.filesFrom cut (name :: above) (.directory entries)) ++
      Entry.filesFromAll cut above rest

end

/-! ### Workspaces -/

/-- All files that there are: what lies at the root of them. -/
structure Workspace where
  top : Entry

/-- Why a path does not lead to a file, or a file is not read. -/
inductive AccessError where
  | notFound
  | notADirectory
  | isADirectory
  | alreadyExists
  | nameTooLong
  | permissionDenied
deriving DecidableEq

namespace AccessError

/-- The number of the error in the system's list. -/
def number : AccessError → Nat
  | notFound => 2
  | notADirectory => 20
  | isADirectory => 21
  | alreadyExists => 17
  | nameTooLong => 36
  | permissionDenied => 13

def reason : AccessError → String
  | notFound => "No such file or directory"
  | notADirectory => "Not a directory"
  | isADirectory => "Is a directory"
  | alreadyExists => "File exists"
  | nameTooLong => "File name too long"
  | permissionDenied => "Permission denied"

/-- The message about a path that could not be used. -/
def message (error : AccessError) (path : String) : String :=
  "[Errno " ++ toString error.number ++ "] " ++ error.reason ++ ": " ++ Text.quoted path

end AccessError

/-- A file that was found, if it may be read. -/
def StoredFile.opened (content : StoredFile) : Except AccessError StoredFile :=
  if content.readable then .ok content else .error .permissionDenied

/-- No name of a file holds a null character, so a path with one cannot even be asked about. -/
inductive NullInPath where
  | found
deriving DecidableEq

def NullInPath.message (_ : NullInPath) : String := "embedded null byte"

/-- Whether a text holds a null character. -/
def hasNull (text : String) : Bool :=
  text.toList.contains '\x00'

namespace Workspace

/-- What is at a place. -/
def entryAt? (workspace : Workspace) (location : Location) : Option Entry :=
  workspace.top.at? location.parts

/-- The most bytes that a name can have. -/
def longestName : Nat := 255

/-- The most bytes that a path can have. -/
def longestPath : Nat := 4095

/-- Follows the parts of a path; each step needs a directory to start from. -/
def follow (workspace : Workspace) (location : Location) :
    List String → Except AccessError (Location × Entry)
  | [] =>
    match workspace.entryAt? location with
    | some entry => .ok (location, entry)
    | none => .error .notFound
  | part :: rest =>
    match workspace.entryAt? location with
    | none => .error .notFound
    | some (.file _) => .error .notADirectory
    | some (.directory _) =>
      if longestName < part.utf8ByteSize then .error .nameTooLong
      else workspace.follow (location.step part) rest

/-- What a path leads to from the place one is at. -/
def find (workspace : Workspace) (cwd : Location) (path : Path) :
    Except AccessError (Location × Entry) :=
  if longestPath < path.text.utf8ByteSize then .error .nameTooLong
  else workspace.follow (cwd.start path.anchor) path.parts

/-- What a text leads to when taken as a path as it stands: nothing if it is empty, and only a
directory if a slash or a dot comes last. -/
def findText (workspace : Workspace) (cwd : Location) (text : String) : Option Entry :=
  if text.isEmpty || longestPath < text.utf8ByteSize then none
  else
    match workspace.find cwd (.ofText text) with
    | .error _ => none
    | .ok (_, entry) =>
      let last := Text.afterLast '/' text.toList
      let needsDirectory := text.toList.contains '/' && (last.isEmpty || last == ['.'])
      if needsDirectory && !entry.isDirectory then none else some entry

/-- Whether a path leads to a directory. -/
def isDirectory (workspace : Workspace) (cwd : Location) (path : Path) : Bool :=
  match workspace.find cwd path with
  | .ok (_, .directory _) => true
  | _ => false

/-- The file at a path, if there is one. A path that is too long cannot be asked about; all other
paths lead to a file or do not. -/
def fileAt? (workspace : Workspace) (cwd : Location) (path : Path) :
    Except AccessError (Option StoredFile) :=
  match workspace.find cwd path with
  | .ok (_, .file content) => .ok (some content)
  | .error .nameTooLong => .error .nameTooLong
  | _ => .ok none

/-- The file at a path, to be read. -/
def readFile (workspace : Workspace) (cwd : Location) (path : Path) :
    Except AccessError StoredFile :=
  match workspace.find cwd path with
  | .ok (_, .file content) => content.opened
  | .ok (_, .directory _) => .error .isADirectory
  | .error error => .error error

end Workspace

end Tangle

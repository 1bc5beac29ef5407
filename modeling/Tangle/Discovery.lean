/-
This file finds the source files of a project. The listing of the version control
system is taken when there is one; otherwise the directories are walked, leaving
out hidden ones and those that hold generated files. Either way the same filters
decide, and the result is sorted by code point.
-/

import Tangle.Glob
import Tangle.Language
import Tangle.Log
import Tangle.Text.Blank
import Tangle.Text.LineBreak
import Tangle.Workspace

namespace Tangle.Discovery

/-- Directories that hold no sources worth looking at. -/
def skippedDirectories : List String :=
  [".git", ".hg", ".svn", "node_modules", "dist", "build", "out", "coverage", ".next", ".nuxt",
   ".output", ".turbo", "onion-tears"]

/-- What is excluded unless told otherwise. -/
def defaultExcludes : List String := ["node_modules", "dist", ".git"]

/-- The patterns that test files are named by. -/
def testPatterns : List String := ["*.test.*", "*.spec.*"]

/-- The most bytes that a source file may have. -/
def largestFile : Nat := 1000000

/-! ### Tests on paths -/

/-- Whether a path is that of a test file. -/
def isTestFile (path : String) : Bool :=
  let name := Text.afterLast '/' path.toList
  testPatterns.any fun pattern => Glob.fits (Glob.parse pattern.toList) name

/-- Whether a pattern matches a whole path or one of its parts. -/
def isExcluded (path : String) (patterns : List String) : Bool :=
  let parts := Text.pieces '/' path.toList
  patterns.any fun pattern =>
    let tokens := Glob.parse pattern.toList
    Glob.fits tokens path.toList || parts.any (Glob.fits tokens)

/-- Whether a directory on the way is one to be skipped. -/
def isSkipped (path : String) : Bool :=
  (Text.pieces '/' path.toList).dropLast.any fun part =>
    skippedDirectories.contains (String.ofList part)

/-! ### Listings -/

/-- What came of asking version control for its files. -/
inductive Listing where
  | unavailable
  | exited (code : Int) (output : String)
deriving DecidableEq

/-- The paths of a listing, one to a line; a failed one has none to offer. -/
def Listing.paths? : Listing → Option (List String)
  | unavailable => none
  | exited code output =>
    if code != 0 then none
    else
      some (((Text.lines output.toList).map Text.trim).filterMap fun line =>
        if line.isEmpty then none else some (String.ofList line))

/-- Hidden directories and those that are always skipped are not walked. -/
def isPruned (name : String) : Bool :=
  skippedDirectories.contains name || name.toList.head? == some '.'

/-- The paths of all files below a directory, as far as it is walked. -/
def walk (top : Entry) : List String :=
  match top with
  | .directory entries =>
    (Entry.filesFromAll isPruned [] entries).map fun (parts, _) => "/".intercalate parts
  | .file _ => []

/-! ### Discovery -/

/-- Whether a path can be a source of the project by its name alone. -/
def isCandidate (excludes : List String) (includeTests : Bool) (path : String) : Bool :=
  !isSkipped path && (Language.detect? path).isSome && (includeTests || !isTestFile path) &&
    !isExcluded path excludes

/-- Keeps a candidate that exists and is not too large. -/
def keep (workspace : Workspace) (root : Location) (path : String) : Logged (Option String) :=
  match workspace.find .top (root.path.join (.ofText path)) with
  | .error _ => pure none
  | .ok (_, .directory _) => pure (some path)
  | .ok (_, .file content) =>
    if largestFile < content.bytes.length then do
      let limit := largestFile
      Logged.log .info .discovery s!"Skipping {path}: larger than {limit} bytes"
      pure none
    else pure (some path)

/-- What is kept of several candidates. One that cannot even be asked about ends it all. -/
def keepAll (workspace : Workspace) (root : Location) :
    List String → Logged (Except NullInPath (List String))
  | [] => pure (.ok [])
  | path :: rest =>
    if hasNull path then pure (.error .found)
    else do
      let kept ← keep workspace root path
      let others ← keepAll workspace root rest
      pure (others.map (kept.toList ++ ·))

/-- All paths under a directory, listed or walked, with forward slashes. -/
def rawPaths (workspace : Workspace) (root : Location) (listing : Listing) :
    Logged (List String) := do
  let paths ← match listing.paths? with
    | some paths => pure paths
    | none => do
      let place := root.text
      Logged.log .debug .discovery s!"git ls-files unavailable in {place}; walking the tree"
      pure (((workspace.entryAt? root).map walk).getD [])
  pure (paths.map Location.forwardSlashes)

/-- The source files under a directory, sorted; a path that is listed twice comes twice. -/
def discover (workspace : Workspace) (root : Location) (listing : Listing)
    (excludes : List String) (includeTests : Bool) :
    Logged (Except NullInPath (List String)) := do
  if root.parts.any hasNull then pure (.error .found)
  else
    let paths ← rawPaths workspace root listing
    let kept ← keepAll workspace root (paths.filter (isCandidate excludes includeTests))
    pure (kept.map fun paths => paths.mergeSort fun a b => decide (a ≤ b))

end Tangle.Discovery

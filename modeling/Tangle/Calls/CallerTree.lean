/-
This file grows the tree of callers above a function: who calls it, who calls
those, and so on. No name comes twice on the way from the root, so recursion ends
the way; the same caller may stand on several ways. Depth is limited separately.
-/

import Tangle.Calls.Table

namespace Tangle

/-- A function and, recursively, the functions that call it. -/
structure CallerTree where
  name : String
  file : String
  callers : List CallerTree

namespace CallerTree

/-! ### Growing -/

/-- The file of a function that is not in the table. -/
def unknownFile : String := "unknown"

/-- The tree above `name`, `depth` levels high; `path` holds the names on the way from the root. -/
def grow (table : CallTable) (graph : CallGraph) : (depth : Nat) → (path : List String) →
    (name : String) → CallerTree
  | 0, _, name =>
    match Ordered.get? table name with
    | none => ⟨name, unknownFile, []⟩
    | some definition => ⟨name, definition.file, []⟩
  | depth + 1, path, name =>
    match Ordered.get? table name with
    | none => ⟨name, unknownFile, []⟩
    | some definition =>
      let callers := (graph.callersOf name).filter (!(name :: path).contains ·)
      ⟨name, definition.file, callers.map (grow table graph depth (name :: path))⟩

/-- The tree above a function. A negative limit allows no callers. -/
def ofTable (table : CallTable) (graph : CallGraph) (name : String) (limit : Int) : CallerTree :=
  grow table graph limit.toNat [] name

/-- How high a tree within one file grows. -/
def singleFileLimit : Int := 20

/-- How high a tree across files grows. -/
def crossFileLimit : Int := 10

/-- The tree above a function within one source. -/
def within (source : Source) (name : String) (limit : Int) : Logged CallerTree := do
  let table := CallTable.ofSources [source]
  let graph := CallGraph.ofTable table
  let path := source.path
  let vertices := graph.vertices.length
  let edges := graph.edges.length
  Logged.log .debug .calls s!"Call graph for {path}: {vertices} nodes, {edges} edges"
  pure (ofTable table graph name limit)

/-- Text that is to be searched for calls, with the tree it parses to. -/
structure Input where
  path : String
  bytes : List UInt8
  tree : Tree

/-- The sources among the inputs; files of other types are passed over with a warning. -/
def readable (inputs : List Input) : Logged (List Source) := do
  let read ← Logged.each inputs fun input => do
    match ← Source.ofTree input.path none input.bytes input.tree with
    | .ok source => pure (some source)
    | .error _ =>
      let path := input.path
      Logged.log .warning .calls s!"Skipping {path}: unsupported file type"
      pure none
  pure (read.filterMap id)

/-- The tree above a function across several files. -/
def across (inputs : List Input) (name : String) (limit : Int) : Logged CallerTree := do
  let sources ← readable inputs
  let table := CallTable.ofSources sources
  let files := sources.length
  let functions := table.length
  Logged.log .debug .calls s!"Cross-file call graph: {files} files, {functions} functions"
  pure (ofTable table (CallGraph.ofTable table) name limit)

/-! ### Showing -/

mutual

/-- One line per function, each caller indented below what it calls. -/
def render (showFile : String → String) (indent : String) : CallerTree → String
  | ⟨name, file, callers⟩ =>
    indent ++ name ++ "() [" ++ showFile file ++ "]\n" ++ renderAll showFile indent callers

/-- Callers that have others behind them are joined to those by a bar. -/
def renderAll (showFile : String → String) (indent : String) : List CallerTree → String
  | [] => ""
  | caller :: rest =>
    let joint := if rest.isEmpty then "    " else "│   "
    render showFile (indent ++ joint) caller ++ renderAll showFile indent rest

end

mutual

/-- The names on every way from the root to a leaf. -/
def paths : CallerTree → List (List String)
  | ⟨name, _, []⟩ => [[name]]
  | ⟨name, _, caller :: rest⟩ => (pathsAll (caller :: rest)).map (name :: ·)

def pathsAll : List CallerTree → List (List String)
  | [] => []
  | tree :: rest => paths tree ++ pathsAll rest

end

end CallerTree

end Tangle

/-
This file assembles a tree from a flat listing, in which every row names the row
of its parent. A parent stands before its children; the children of a node keep
the order of their rows.
-/

import Tangle.Tree

namespace Tangle

/-- One row of a listing. The root names no parent. -/
structure Row where
  kind : Kind
  named : Bool
  missing : Bool
  start : Nat
  stop : Nat
  parent : Option Nat
  field : Option Field

namespace Row

/-- The node of a row, given its number and its children. -/
def node (row : Row) (index : Nat) (children : List Node) : Node :=
  ⟨⟨index, row.kind, row.named, row.missing, row.start, row.stop, row.field⟩, children⟩

/-- Nodes that still wait for their parents, each with the parent's number. -/
abbrev Waiting := List (Option Nat × Node)

/-- Takes the waiting children of row `index` and lets the finished node wait in turn. -/
def place (row : Row) (index : Nat) (waiting : Waiting) : Waiting :=
  let own := waiting.filter (·.1 == some index)
  let others := waiting.filter (·.1 != some index)
  (row.parent, row.node index (own.map (·.2))) :: others

/-- Goes through the rows from the last to the first, so that children come before parents. -/
def gather (index : Nat) : List Row → Waiting
  | [] => []
  | row :: rest => row.place index (gather (index + 1) rest)

/-- The tree of a listing: the first row is the root. -/
def assemble? (rows : List Row) : Option Node :=
  (gather 0 rows).head?.map (·.2)

end Row

end Tangle

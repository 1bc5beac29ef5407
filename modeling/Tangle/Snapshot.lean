/-
This file reads from JSON what is handed over from outside: the syntax trees of
sources, the files of a workspace, the listing of version control and the time.
Parsing source text is not part of this library.
-/

import Tangle.Discovery
import Tangle.Envelope
import Tangle.Json.Access
import Tangle.Text.Hex
import Tangle.Text.Utf8
import Tangle.Tree.Rows
import Tangle.Workspace

namespace Tangle.Snapshot

/-! ### Trees and contents -/

/-- A row: type, flags (1 for named, 2 for missing), first byte, byte behind the last, number of
the parent, and the field, if it has one. -/
def row? : Json → Option Row
  | .arr (kind :: flags :: start :: stop :: parent :: rest) => do
    let kind ← kind.string?
    let flags ← flags.nat?
    let start ← start.nat?
    let stop ← stop.nat?
    let field := (rest.head?.bind Json.string?).map Field.ofName
    pure ⟨Kind.ofName kind, flags % 2 == 1, flags / 2 % 2 == 1, start, stop, parent.nat?, field⟩
  | _ => none

def tree? (json : Json) : Option Tree := do
  let rows ← ((json.get? "nodes").bind Json.items?).bind (·.mapM row?)
  let root ← Row.assemble? rows
  pure ⟨root, (json.boolAt? "has_error").getD false⟩

/-- Bytes from pairs of hexadecimal digits. -/
def ofHex? : List Char → Option (List UInt8)
  | [] => some []
  | high :: low :: rest => do
    let high ← Text.hexValue? high
    let low ← Text.hexValue? low
    let rest ← ofHex? rest
    pure (UInt8.ofNat (high * 16 + low) :: rest)
  | _ => none

/-- The content of a file: as text, as bytes in hexadecimal, or as a number of spaces. -/
def content? (json : Json) : Option (List UInt8) :=
  match json.stringAt? "text", json.stringAt? "hex", json.natAt? "size" with
  | some text, _, _ => some (Text.Utf8.encode text.toList)
  | none, some hex, _ => ofHex? hex.toList
  | none, none, some size => some (List.replicate size 0x20)
  | none, none, none => none

/-- The tree that comes with a source, if any does. -/
def treeOf? (json : Json) : Option Tree :=
  match json.present? "tree" with
  | some tree => tree? tree
  | none => some Tree.empty

/-! ### Workspaces -/

/-- Makes a directory, unless there is one. -/
def addDirectory (top : Entry) (parts : List String) : Entry :=
  match top.at? parts with
  | some (.directory _) => top
  | _ => top.insert (.directory []) parts

/-- Adds one item of a list of files under a root. -/
def addItem? (root : Location) (top : Entry) (json : Json) : Option Entry := do
  let parts := root.parts ++ pathParts (← json.stringAt? "path").toList
  if (json.boolAt? "dir").getD false then pure (addDirectory top parts)
  else
    let content ← content? json
    let tree ← treeOf? json
    let readable := (json.boolAt? "readable").getD true
    pure (top.insert (.file ⟨content, tree, readable⟩) parts)

/-- The workspace with the given files under a root. -/
def workspace? (root : Location) (files : List Json) : Option Workspace :=
  (files.foldlM (addItem? root) (addDirectory (.directory []) root.parts)).map fun top => ⟨top⟩

/-- What version control answered. -/
def listing (json : Option Json) : Discovery.Listing :=
  match json with
  | none => .unavailable
  | some answer =>
    if (answer.boolAt? "timeout").getD false then .unavailable
    else
      .exited ((answer.intAt? "returncode").getD 0) ((answer.stringAt? "stdout").getD "")

/-- A moment as a list of numbers, from the year to the second. -/
def moment? (json : Json) : Option Moment :=
  match (json.items?).bind (·.mapM Json.nat?) with
  | some (year :: month :: day :: hour :: minute :: second :: _) =>
    some ⟨year, month, day, hour, minute, second⟩
  | _ => none

end Tangle.Snapshot

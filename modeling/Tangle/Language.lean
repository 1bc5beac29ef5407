/-
This file tells the language of a file from its name. Declaration files hold no
function bodies and have no language.
-/

import Tangle.Text.Slice

namespace Tangle

/-- The languages that can be analysed. -/
inductive Language where
  | typescript
  | tsx
  | javascript
deriving DecidableEq

namespace Language

def name : Language → String
  | typescript => "typescript"
  | tsx => "tsx"
  | javascript => "javascript"

def ofName? : String → Option Language
  | "typescript" => some typescript
  | "tsx" => some tsx
  | "javascript" => some javascript
  | _ => none

/-- The language of an extension, which includes its dot and is in lower case. -/
def ofExtension? : String → Option Language
  | ".ts" => some typescript
  | ".mts" => some typescript
  | ".cts" => some typescript
  | ".tsx" => some tsx
  | ".js" => some javascript
  | ".mjs" => some javascript
  | ".cjs" => some javascript
  | ".jsx" => some javascript
  | _ => none

end Language

/-- The last dot of a file name and all behind it. Dots at the start of a name open no extension,
so the part before the last dot must hold something else. -/
def extension (name : List Char) : List Char :=
  let behind := Text.afterLast '.' name
  let before := name.take (name.length - behind.length - 1)
  if before.any (· != '.') && behind.length < name.length then '.' :: behind else []

/-- The language of a file by its name alone. Only ASCII letters are lowered: no other letter has
one of an extension's letters as its lower case. -/
def Language.detect? (path : String) : Option Language :=
  let name := (Text.afterLast '/' path.toList).map Char.toLower
  if ".d.ts".toList.isSuffixOf name then none
  else Language.ofExtension? (String.ofList (extension name))

/-- The language to read a file as: the one asked for by name, or else the one of its path. -/
def Language.resolve? (requested : Option String) (path : String) : Option Language :=
  match requested with
  | none | some "" => Language.detect? path
  | some name => Language.ofName? name

end Tangle

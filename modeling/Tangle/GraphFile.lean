/-
This file names the files that graphs are written to. A name keeps the letters,
digits, dots and hyphens of its function; when it is taken already, the line of
the function is added.
-/

import Tangle.Text.Alphanumeric

namespace Tangle.GraphFile

/-- A character that can stand in a file name as it is. -/
def isPlain (c : Char) : Bool :=
  Text.isAlphanumeric c || c == '_' || c == '.' || c == '-'

/-- The name of a function with every other character replaced. -/
def base (function : String) : String :=
  let name := String.ofList (function.toList.map fun c => if isPlain c then c else '_')
  if name.isEmpty then "anonymous" else name

/-- The name for a function, given the names that are taken. -/
def stem (used : List String) (function : String) (line : Int) : String :=
  if used.contains (base function) then base function ++ "_L" ++ toString line else base function

/-- Notes that a name is taken. -/
def take (used : List String) (name : String) : List String :=
  if used.contains name then used else used ++ [name]

/-- The ending of graph files. -/
def ending : String := ".mermaid"

/-- The file names for several functions, one after the other, and the names taken after that. -/
def names (used : List String) : List (String × Int) → List String × List String
  | [] => ([], used)
  | (function, line) :: rest =>
    let name := stem used function line
    let (others, after) := names (take used name) rest
    ((name ++ ending) :: others, after)

end Tangle.GraphFile

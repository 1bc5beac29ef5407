/-
This file wraps results in an envelope that says what they are: which command
made them, in which project, with which version and when. The time stands apart
from the content, so that equal runs have equal content.
-/

import Tangle.Json.Writer
import Tangle.Ordered

namespace Tangle

/-- A moment in universal time, to the second. -/
structure Moment where
  year : Nat
  month : Nat
  day : Nat
  hour : Nat
  minute : Nat
  second : Nat
deriving DecidableEq

/-- A number with zeros in front of it up to the given width. -/
def zeroPadded (width n : Nat) : String :=
  let digits := toString n
  String.ofList (List.replicate (width - digits.length) '0') ++ digits

/-- The moment as a timestamp. -/
def Moment.text (moment : Moment) : String :=
  zeroPadded 4 moment.year ++ "-" ++ zeroPadded 2 moment.month ++ "-" ++ zeroPadded 2 moment.day ++
    "T" ++ zeroPadded 2 moment.hour ++ ":" ++ zeroPadded 2 moment.minute ++ ":" ++
    zeroPadded 2 moment.second ++ "Z"

/-- The version of the program. -/
def version : String := "0.3.0"

/-- Who makes an envelope, and when. -/
structure Sender where
  project : String
  now : Moment

/-- The envelope of a result. The payload may replace what is said about the result, but not the
time; a summary that says nothing is an empty object. -/
def envelope (sender : Sender) (command : String) (summary : Json)
    (payload : List (String × Json)) : Json :=
  let base : List (String × Json) :=
    [("schema", .string "onion-tears-envelope-v1"), ("schema_version", .string "1.0.0"),
     ("command", .string command), ("version", .string version),
     ("project", .string sender.project),
     ("summary", if summary.isTruthy then summary else .obj [])]
  .object (Ordered.putAll base (payload ++
    [("_meta", .object [("timestamp", .string sender.now.text)])]))

end Tangle

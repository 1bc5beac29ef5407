/-
This file lists the ways in which the program itself gives up, with the message
and the exit code of each.
-/

namespace Tangle

/-- Why a command ends without its result. -/
inductive Failure where
  | sourceNotFound (path : String)
  | unsupportedLanguage (path : String)
  | invalidConfiguration (detail : String)
  | gate (message : String)
  | general (message : String) (exitCode : Int)
deriving DecidableEq

namespace Failure

def message : Failure → String
  | sourceNotFound path => "File not found at path: " ++ path
  | unsupportedLanguage path => "Unsupported file type (expected .js/.jsx/.ts/.tsx): " ++ path
  | invalidConfiguration detail => "Invalid configuration: " ++ detail
  | gate message => message
  | general message _ => message

/-- A failed gate has an exit code of its own, so that callers can tell it from a crash. -/
def exitCode : Failure → Int
  | gate _ => 5
  | general _ code => code
  | _ => 1

/-- The path that a failure is about. -/
def path? : Failure → Option String
  | sourceNotFound path => some path
  | unsupportedLanguage path => some path
  | _ => none

/-- The message of a failed gate that says nothing more. -/
def gateMessage : String := "Complexity gate failed."

end Failure

/-- What an exit code means. -/
def exitCodeDescription? : Int → Option String
  | 0 => some "success"
  | 1 => some "unexpected error"
  | 2 => some "invalid usage (bad arguments or flags)"
  | 5 => some "complexity gate failed"
  | _ => none

end Tangle

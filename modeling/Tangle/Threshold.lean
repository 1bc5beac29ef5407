/-
This file holds the thresholds on the cyclomatic score and says which of them a
score reaches.
-/

namespace Tangle

/-- Inclusive lower bounds. A threshold that is absent or zero is not enforced. -/
structure Thresholds where
  warning : Option Int
  error : Option Int
deriving DecidableEq

/-- How a score stands to the thresholds. -/
inductive Status where
  | none
  | warning
  | error
deriving DecidableEq

def Status.name : Status → String
  | none => "none"
  | warning => "warning"
  | error => "error"

def Status.ofName? : String → Option Status
  | "none" => some none
  | "warning" => some warning
  | "error" => some error
  | _ => Option.none

/-- Whether a score reaches a threshold that is enforced. -/
def reaches (score : Int) : Option Int → Bool
  | some bound => bound != 0 && bound ≤ score
  | none => false

/-- The status of a score; the error threshold is asked first. -/
def Thresholds.classify (thresholds : Thresholds) (score : Int) : Status :=
  if reaches score thresholds.error then .error
  else if reaches score thresholds.warning then .warning
  else .none

/-- The status of a score when there may be no thresholds at all. -/
def classify (thresholds : Option Thresholds) (score : Int) : Status :=
  match thresholds with
  | some bounds => bounds.classify score
  | none => .none

end Tangle

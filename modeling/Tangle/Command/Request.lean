/-
This file turns the words of a command line into a request: values are checked
against their types, and what was said is gathered for each command. Checks are
made in the order in which options were given, then arguments, then what was left
out, and the first fault found is the one that is reported.
-/

import Tangle.Calls.CallerTree
import Tangle.Command.Arguments
import Tangle.Text.Blank
import Tangle.Text.DecimalDigit
import Tangle.Text.Numeral
import Tangle.Workspace

namespace Tangle.Command

/-! ### Numbers -/

/-- A blank that may stand around a number. The information separators are none here. -/
def isNumberBlank (c : Char) : Bool :=
  Text.isBlank c && !(0x1C ≤ c.toNat && c.toNat ≤ 0x1F)

/-- Drops the blanks around a number. -/
def trimNumber (text : List Char) : List Char :=
  ((text.dropWhile isNumberBlank).reverse.dropWhile isNumberBlank).reverse

/-- The values of digits in a row. A single underscore may stand between two digits. -/
def digits? : List Char → Option (List Nat)
  | [] => some []
  | '_' :: digit :: rest => do
    let value ← Text.digitValue? digit
    let others ← digits? rest
    pure (value :: others)
  | digit :: rest => do
    let value ← Text.digitValue? digit
    let others ← digits? rest
    pure (value :: others)

/-- The number that a text without a sign spells. It starts with a digit and is not too long. -/
def unsigned? (text : List Char) : Option Nat := do
  let first ← text.head?
  let value ← Text.digitValue? first
  let others ← digits? (text.drop 1)
  if others.length < Text.longestNumeral then
    pure ((value :: others).foldl (fun number digit => 10 * number + digit) 0)
  else none

/-- The integer that a text spells, with blanks around it and a sign before it if need be. -/
def integer? (text : String) : Option Int :=
  match trimNumber text.toList with
  | '-' :: rest => (unsigned? rest).map fun value => -(value : Int)
  | '+' :: rest => (unsigned? rest).map Int.ofNat
  | rest => (unsigned? rest).map Int.ofNat

/-! ### Checks -/

/-- What a path leads to, if it leads anywhere. -/
abbrev Look := String → Option Entry

/-- Why a value is not taken. -/
inductive ValueFault where
  | unfit (detail : String)
  | nullInPath (null : NullInPath)
deriving DecidableEq

/-- Why a command line is not followed. -/
inductive Refusal where
  | usage (error : UsageError)
  | nullInPath (null : NullInPath)
deriving DecidableEq

/-- What is wrong with a path, if anything is. -/
def PathRule.fault? (rule : PathRule) (look : Look) (text : String) : Option ValueFault :=
  let subject := rule.noun ++ " " ++ Text.quoted text
  if hasNull text then some (.nullInPath .found)
  else
    match look text with
    | none => if rule.mustExist then some (.unfit (subject ++ " does not exist.")) else none
    | some (.file content) =>
      if !rule.files then some (.unfit (subject ++ " is a file."))
      else if !content.readable then some (.unfit (subject ++ " is not readable."))
      else none
    | some (.directory _) =>
      if rule.directories then none else some (.unfit (subject ++ " is a directory."))

/-- What is wrong with a value, if anything is. -/
def ValueType.fault? (look : Look) (text : String) : ValueType → Option ValueFault
  | .text => none
  | .integer =>
    if (integer? text).isSome then none
    else some (.unfit (Text.quoted text ++ " is not a valid integer."))
  | .natural =>
    match integer? text with
    | none => some (.unfit (Text.quoted text ++ " is not a valid integer range."))
    | some value =>
      if value < 0 then some (.unfit (toString value ++ " is not in the range x>=0.")) else none
  | .path rule => rule.fault? look text

/-- Something that is to be checked: values of one type, and how to call them. -/
structure Check where
  target : String
  type : ValueType
  values : List String

/-- Reports the first value that is not as it should be. -/
def Check.run (look : Look) (check : Check) : Except Refusal Unit :=
  match check.values.findSome? fun value => check.type.fault? look value with
  | some (.unfit detail) => .error (.usage (.invalidValue check.target detail))
  | some (.nullInPath null) => .error (.nullInPath null)
  | none => .ok ()

/-- The check of an option, given or left out. -/
def OptionSpec.check? (words : Words) (option : OptionSpec) : Option Check :=
  option.type.map fun type =>
    let target := " / ".intercalate (option.names.map fun name => "'" ++ name ++ "'")
    let value := (words.value? option.key <|> option.fallback)
    ⟨target, type, value.toList⟩

/-- The values of an argument among the words that are left for it and those behind it. -/
def ArgumentSpec.values? (argument : ArgumentSpec) (words : List String) :
    Except Refusal (List String × List String) :=
  match argument.arity, words with
  | .one, [] => .error (.usage (.argumentMissing argument.placeholder))
  | .one, word :: rest => .ok ([word], rest)
  | .optional fallback, [] => .ok ([fallback], [])
  | .optional _, word :: rest => .ok ([word], rest)
  | .many, words => .ok (words, [])

/-- The values of the arguments. -/
abbrev Assigned := List (Key × List String)

/-- Gives each argument its words and checks them; no word may be left at the end. The checks
`behind` come after those of the arguments, but before words that are left over. -/
def assign (look : Look) (behind : List Check) :
    List ArgumentSpec → List String → Except Refusal Assigned
  | [], words => do
    behind.forM (Check.run look)
    if words.isEmpty then .ok [] else .error (.usage (.argumentsLeft words))
  | argument :: others, words => do
    let (values, rest) ← argument.values? words
    Check.run look ⟨"'" ++ argument.placeholder ++ "'", argument.type, values⟩
    let assigned ← assign look behind others rest
    pure ((argument.key, values) :: assigned)

/-- The keys of the options that are given, in the order in which they first are. -/
def Words.order (words : Words) : List Key :=
  (words.given.map (·.1)).eraseDups

/-- Checks all values of a command line and gives the arguments theirs. -/
def Grammar.assign (grammar : Grammar) (look : Look) (words : Words) :
    Except Refusal Assigned := do
  let order := words.order
  let given := order.filterMap fun key => grammar.options.find? (·.key = key)
  let leftOut := grammar.options.filter fun option => !order.contains option.key
  (given.filterMap (OptionSpec.check? words)).forM (Check.run look)
  Command.assign look (leftOut.filterMap (OptionSpec.check? words)) grammar.arguments words.rest

/-! ### Requests -/

structure FileRequest where
  path : String
  graph : Bool
  outputDir : String
  html : Bool
  failOnError : Bool
deriving DecidableEq

structure ProjectRequest where
  directory : String
  excludes : List String
  includeTests : Bool
  outputDir : String
  html : Bool
  failOnError : Bool
deriving DecidableEq

structure CallpathRequest where
  function : String
  paths : List String
  depth : Int
  includeTests : Bool
deriving DecidableEq

structure GraphRequest where
  path : String
  function : String
  line : Option Int
deriving DecidableEq

/-- What the program is asked to do. -/
inductive Request where
  | file (request : FileRequest)
  | project (request : ProjectRequest)
  | callpath (request : CallpathRequest)
  | graph (request : GraphRequest)
deriving DecidableEq

/-- The only value of an argument. -/
def Assigned.single (assigned : Assigned) (key : Key) : String :=
  ((assigned.lookup key).bind List.head?).getD ""

/-- Where output goes. -/
def Words.outputDir (words : Words) : String :=
  (words.value? .outputDir).getD defaultOutput

def fileRequest (words : Words) (assigned : Assigned) : FileRequest where
  path := assigned.single .path
  graph := words.isOn .graph false
  outputDir := words.outputDir
  html := words.isOn .html true
  failOnError := words.isOn .failOnError false

def projectRequest (words : Words) (assigned : Assigned) : ProjectRequest where
  directory := assigned.single .directory
  excludes := words.values .exclude
  includeTests := words.isOn .includeTests false
  outputDir := words.outputDir
  html := words.isOn .html true
  failOnError := words.isOn .failOnError false

def callpathRequest (words : Words) (assigned : Assigned) : CallpathRequest where
  function := assigned.single .function
  paths := (assigned.lookup .paths).getD []
  depth := ((words.value? .depth).bind integer?).getD CallerTree.crossFileLimit
  includeTests := words.isOn .includeTests false

def graphRequest (words : Words) (assigned : Assigned) : GraphRequest where
  path := assigned.single .path
  function := assigned.single .function
  line := (words.value? .line).bind integer?

end Tangle.Command

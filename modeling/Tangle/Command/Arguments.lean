/-
This file reads the words of a command line by a grammar: which options are
given, with which values, and which words are left as arguments. Two dashes alone
end the options. A word that starts with one dash may hold several short options.
-/

import Tangle.Command.Grammar
import Tangle.Text.Quoted
import Tangle.Text.Similarity

namespace Tangle.Command

/-- Why a command line cannot be followed. -/
inductive UsageError where
  | noSuchOption (name : String) (suggestions : List String)
  | valueMissing (name : String)
  | valueUnwanted (name : String)
  | argumentMissing (placeholder : String)
  | invalidValue (target : String) (detail : String)
  | argumentsLeft (words : List String)
  | commandMissing
  | noSuchCommand (name : String)
deriving DecidableEq

namespace UsageError

/-- What was perhaps meant, in the order of the alphabet. -/
def suggestionText (suggestions : List String) : String :=
  match (suggestions.mergeSort fun a b => decide (a ≤ b)).map Text.quoted with
  | [] => ""
  | [suggestion] => " Did you mean " ++ suggestion ++ "?"
  | several => " (Did you mean one of: " ++ ", ".intercalate several ++ "?)"

def message : UsageError → String
  | noSuchOption name suggestions =>
    "No such option " ++ Text.quoted name ++ "." ++ suggestionText suggestions
  | valueMissing name => "Option " ++ Text.quoted name ++ " requires an argument."
  | valueUnwanted name => "Option " ++ Text.quoted name ++ " does not take a value."
  | argumentMissing placeholder => "Missing argument '" ++ placeholder ++ "'."
  | invalidValue target detail => "Invalid value for " ++ target ++ ": " ++ detail
  | argumentsLeft words =>
    let noun := if words.length = 1 then "argument" else "arguments"
    "Got unexpected extra " ++ noun ++ " (" ++ " ".intercalate words ++ ")"
  | commandMissing => "Missing command."
  | noSuchCommand name => "No such command " ++ Text.quoted name ++ "."

/-- Whether the message stands alone, without a reminder of how the command is called. -/
def isBare : UsageError → Bool
  | valueMissing _ | valueUnwanted _ => true
  | _ => false

end UsageError

/-! ### One word -/

/-- What is said about an option. -/
inductive Setting where
  | on
  | off
  | value (text : String)
deriving DecidableEq

/-- An option that was given, and what was said about it. -/
abbrev Given := Key × Setting

/-- The option with the given name, and what the name alone says about it. -/
def option? (options : List OptionSpec) (name : String) : Option (OptionSpec × Setting) :=
  options.findSome? fun option =>
    if option.names.contains name then some (option, .on)
    else if option.offNames.contains name then some (option, .off)
    else none

/-- A name of several letters, after two dashes. -/
def isLong (name : String) : Bool :=
  "--".toList.isPrefixOf name.toList

/-- The long names of the options. -/
def longNames (options : List OptionSpec) : List String :=
  (options.flatMap fun option => option.names ++ option.offNames).filter isLong

/-- What a word says: some options, the last of which may still wait for its value. -/
structure Spoken where
  given : List Given
  waiting : Option (Key × String)

/-- The options in the letters behind one dash. The rest of the word is the value of the first
option that takes one. -/
def readCluster (options : List OptionSpec) : List Char → Except UsageError Spoken
  | [] => .ok ⟨[], none⟩
  | letter :: rest =>
    let name := String.ofList ['-', letter]
    match option? options name with
    | none => .error (.noSuchOption name [])
    | some (option, setting) =>
      if option.type.isSome then
        if rest.isEmpty then .ok ⟨[], some (option.key, name)⟩
        else .ok ⟨[(option.key, .value (String.ofList rest))], none⟩
      else
        (readCluster options rest).map fun spoken =>
          { spoken with given := (option.key, setting) :: spoken.given }

/-- The text before and behind the first equals sign. -/
def splitValue (word : List Char) : List Char × Option (List Char) :=
  match word.dropWhile (· != '=') with
  | [] => (word, none)
  | _ :: value => (word.takeWhile (· != '='), some value)

/-- The options in one word that starts with a dash. -/
def readWord (options : List OptionSpec) (word : String) : Except UsageError Spoken :=
  let (nameChars, attached) := splitValue word.toList
  let name := String.ofList nameChars
  match (if isLong name then option? options name else none), attached with
  | some (option, setting), none =>
    if option.type.isSome then .ok ⟨[], some (option.key, name)⟩
    else .ok ⟨[(option.key, setting)], none⟩
  | some (option, _), some value =>
    if option.type.isSome then .ok ⟨[(option.key, .value (String.ofList value))], none⟩
    else .error (.valueUnwanted name)
  | none, _ =>
    if isLong word then .error (.noSuchOption name (Text.closeTo name (longNames options)))
    else readCluster options (word.toList.drop 1)

/-- A word that is to be read as options: a dash and something behind it. -/
def looksLikeOption (word : String) : Bool :=
  word.toList.head? == some '-' && 1 < word.length

/-! ### All words -/

/-- The options that are given, in order, and the words that are none. -/
structure Words where
  given : List Given
  rest : List String

/-- Reads all words. Where options and arguments do not mix, the first argument ends the
options. -/
def readWords (options : List OptionSpec) (mixed : Bool) : List String → Except UsageError Words
  | [] => .ok ⟨[], []⟩
  | word :: rest =>
    if word = "--" then .ok ⟨[], rest⟩
    else if looksLikeOption word then
      match readWord options word with
      | .error error => .error error
      | .ok ⟨given, none⟩ =>
        (readWords options mixed rest).map fun words =>
          { words with given := given ++ words.given }
      | .ok ⟨given, some (key, name)⟩ =>
        match rest with
        | [] => .error (.valueMissing name)
        | value :: others =>
          (readWords options mixed others).map fun words =>
            { words with given := given ++ (key, .value value) :: words.given }
    else if mixed then
      (readWords options mixed rest).map fun words => { words with rest := word :: words.rest }
    else .ok ⟨[], word :: rest⟩

/-! ### Looking up what was said -/

namespace Words

/-- What was said last about an option. -/
def last? (words : Words) (key : Key) : Option Setting :=
  (words.given.filter (·.1 = key)).getLast?.map (·.2)

/-- Whether a switch is on, given what it is if nothing is said. -/
def isOn (words : Words) (key : Key) (otherwise : Bool) : Bool :=
  match words.last? key with
  | some .off => false
  | some _ => true
  | none => otherwise

/-- The value that an option was given last. -/
def value? (words : Words) (key : Key) : Option String :=
  match words.last? key with
  | some (.value text) => some text
  | _ => none

/-- All values that an option was given. -/
def values (words : Words) (key : Key) : List String :=
  words.given.filterMap fun
    | (other, .value text) => if other = key then some text else none
    | _ => none

end Words

end Tangle.Command

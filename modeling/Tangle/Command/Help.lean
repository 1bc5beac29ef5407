/-
This file explains the commands: how they are called, what they do and which
options they take, laid out for a screen of fixed width. Options stand in two
columns, and what does not fit is continued under the second one.
-/

import Tangle.Command.Arguments

namespace Tangle.Command

/-- How many characters fit on a line. -/
def screenWidth : Nat := 80

/-- The widest that a first column gets. -/
def widestColumn : Nat := 30

/-- The space between the columns, and before them. -/
def columnGap : Nat := 2

def spaces (count : Nat) : String :=
  String.ofList (List.replicate count ' ')

/-! ### Wrapping -/

/-- A word and the number of spaces before it. -/
structure SpacedWord where
  gap : Nat
  word : List Char

/-- The words of a text with the spaces between them. -/
def spacedWords : List Char → List SpacedWord
  | [] => []
  | c :: rest =>
    match c, spacedWords rest with
    | ' ', [] => []
    | ' ', ⟨gap, word⟩ :: others => ⟨gap + 1, word⟩ :: others
    | c, [] => [⟨0, [c]⟩]
    | c, ⟨0, word⟩ :: others => ⟨0, c :: word⟩ :: others
    | c, others => ⟨0, [c]⟩ :: others

/-- Fills lines of the given width after the one already begun. Spaces around a break are
dropped. -/
def fillLines (width : Nat) (line : List Char) : List SpacedWord → List (List Char)
  | [] => [line]
  | ⟨gap, word⟩ :: rest =>
    if line.isEmpty then fillLines width word rest
    else if line.length + gap + word.length ≤ width then
      fillLines width (line ++ List.replicate gap ' ' ++ word) rest
    else line :: fillLines width word rest

/-- A text in lines of the given width. -/
def wrap (width : Nat) (text : String) : List String :=
  (fillLines width [] (spacedWords text.toList)).map String.ofList

/-! ### Two columns -/

/-- The lines of one row; a first cell that is too wide has a line of its own. -/
def rowLines (column : Nat) (row : String × String) : List String :=
  let indent := spaces (columnGap + column + columnGap)
  let text := wrap (max (screenWidth - (column + columnGap) - columnGap) 10) row.2
  let first := spaces columnGap ++ row.1
  let continued := (text.drop 1).map (indent ++ ·)
  if row.1.length ≤ column then
    (first ++ spaces (column + columnGap - row.1.length) ++ text.headD "") :: continued
  else first :: (indent ++ text.headD "") :: continued

/-- Rows of two cells. -/
def definitions (rows : List (String × String)) : List String :=
  let column := min ((rows.map (·.1.length)).foldl max 0) widestColumn
  rows.flatMap (rowLines column)

/-! ### Explanations -/

/-- Names in the order in which they are shown, short ones first. -/
def shownNames (names : List String) : String :=
  ", ".intercalate (names.filter (!isLong ·) ++ names.filter isLong)

/-- The row of an option. -/
def optionRow (option : OptionSpec) : String × String :=
  let value := match option.type with
    | some type => " " ++ type.placeholder
    | none => ""
  let off := if option.offNames.isEmpty then "" else " / " ++ shownNames option.offNames
  let notes := if option.notes.isEmpty then "" else "  [" ++ "; ".intercalate option.notes ++ "]"
  (shownNames option.names ++ value ++ off, option.about ++ notes)

/-- How a command is called. -/
def Grammar.usage (grammar : Grammar) : String :=
  "Usage: " ++ " ".intercalate ([grammar.title, "[OPTIONS]"] ++ grammar.operands)

/-- The first paragraph about a command stands for it in a list. -/
def commandRow (command : String × Grammar) : String × String :=
  (command.1, command.2.about.headD "")

/-- The explanation of a command, with the commands behind it, if there are any. -/
def Grammar.help (grammar : Grammar) (commands : List (String × Grammar)) : String :=
  let about := grammar.about.flatMap fun paragraph =>
    "" :: (wrap (screenWidth - columnGap) paragraph).map (spaces columnGap ++ ·)
  let listed :=
    if commands.isEmpty then [] else ["", "Commands:"] ++ definitions (commands.map commandRow)
  "\n".intercalate ([grammar.usage] ++ about ++ ["", "Options:"] ++
    definitions (grammar.options.map optionRow) ++ listed) ++ "\n"

/-- The message about a command line that cannot be followed. -/
def Grammar.complaint (grammar : Grammar) (error : UsageError) : String :=
  let reminder := grammar.usage ++ "\nTry '" ++ grammar.title ++ " --help' for help.\n\n"
  (if error.isBare then "" else reminder) ++ "Error: " ++ error.message ++ "\n"

end Tangle.Command

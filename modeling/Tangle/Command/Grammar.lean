/-
This file describes what can be said on a command line: options, which may stand
anywhere, and arguments, which are told by their order. A grammar is data, so
that reading, checking and explaining a command line all follow the same one.
-/

namespace Tangle.Command

/-- What an option or an argument is about. -/
inductive Key where
  | help
  | version
  | json
  | verbose
  | graph
  | outputDir
  | html
  | failOnError
  | exclude
  | includeTests
  | depth
  | line
  | path
  | directory
  | function
  | paths
deriving DecidableEq

/-! ### Values -/

/-- Which paths are taken for a value. -/
structure PathRule where
  mustExist : Bool
  files : Bool
  directories : Bool
deriving DecidableEq

/-- What a value has to be. -/
inductive ValueType where
  | text
  | integer
  | natural
  | path (rule : PathRule)
deriving DecidableEq

/-- What a path is called in messages. -/
def PathRule.noun (rule : PathRule) : String :=
  if rule.files && rule.directories then "Path" else if rule.files then "File" else "Directory"

/-- What stands for the value of an option in its explanation. -/
def ValueType.placeholder : ValueType → String
  | text => "TEXT"
  | integer => "INTEGER"
  | natural => "INTEGER RANGE"
  | path rule =>
    if rule.files && rule.directories then "PATH" else if rule.files then "FILE" else "DIRECTORY"

/-! ### Options and arguments -/

/-- An option. Without a type it is a switch; `offNames` are the names that turn it off. The value
`fallback` is taken when the option is not given. -/
structure OptionSpec where
  key : Key
  names : List String
  offNames : List String
  type : Option ValueType
  fallback : Option String
  about : String
  notes : List String

/-- How many values an argument takes. -/
inductive Arity where
  | one
  | optional (fallback : String)
  | many
deriving DecidableEq

structure ArgumentSpec where
  key : Key
  name : String
  type : ValueType
  arity : Arity

/-- How an argument is written where it is explained. -/
def ArgumentSpec.placeholder (argument : ArgumentSpec) : String :=
  match argument.arity with
  | .one => argument.name
  | .optional _ => "[" ++ argument.name ++ "]"
  | .many => "[" ++ argument.name ++ "]..."

/-- A command: how it is called, what it does, paragraph by paragraph, and what can be said to
it. -/
structure Grammar where
  title : String
  operands : List String
  about : List String
  options : List OptionSpec
  arguments : List ArgumentSpec

/-- A switch that is off unless given. -/
def switch (key : Key) (names : List String) (about : String) : OptionSpec :=
  ⟨key, names, [], none, none, about, []⟩

/-- Every command explains itself. -/
def helpOption : OptionSpec :=
  switch .help ["--help"] "Show this message and exit."

/-! ### The commands -/

/-- The name under which the program is called. -/
def programName : String := "cli"

/-- Where reports and graphs are put unless told otherwise. -/
def defaultOutput : String := "onion-tears"

/-- A command of the program. -/
def subcommand (name : String) (about : List String) (arguments : List ArgumentSpec)
    (options : List OptionSpec) : Grammar :=
  ⟨programName ++ " " ++ name, arguments.map ArgumentSpec.placeholder, about,
    options ++ [helpOption], arguments⟩

/-- What can be said before the command. -/
def topGrammar : Grammar where
  title := programName
  operands := ["COMMAND", "[ARGS]..."]
  about := ["Onion Tears: cyclomatic and cognitive complexity for JS/TS."]
  options :=
    [switch .version ["--version"] "Show the version and exit.",
     switch .json ["--json"] "Output in JSON format",
     switch .verbose ["--verbose", "-v"] "Log debug output to stderr",
     helpOption]
  arguments := []

/-- A path to something that need not exist but must not be a directory. -/
def fileType : ValueType := .path ⟨false, true, false⟩

def outputOption (about : String) : OptionSpec :=
  ⟨.outputDir, ["--output-dir"], [], some (.path ⟨false, false, true⟩), some defaultOutput, about,
    ["default: " ++ defaultOutput]⟩

def htmlOption : OptionSpec :=
  ⟨.html, ["--html"], ["--no-html"], none, none, "Write complexity-report.html", ["default: html"]⟩

def failOnErrorOption : OptionSpec :=
  switch .failOnError ["--fail-on-error"] "Exit 5 if any function reaches the error threshold"

def fileGrammar : Grammar :=
  subcommand "file" ["Analyze a single JavaScript or TypeScript file."]
    [⟨.path, "PATH", fileType, .one⟩]
    [switch .graph ["--graph"] "Write a Mermaid control flow graph per function",
     outputOption "Directory for the HTML report and graphs", htmlOption, failOnErrorOption]

def projectGrammar : Grammar :=
  subcommand "project" ["Analyze all JavaScript and TypeScript files under DIRECTORY."]
    [⟨.directory, "DIRECTORY", .path ⟨true, false, true⟩, .optional "."⟩]
    [⟨.exclude, ["--exclude", "-e"], [], some .text, none, "Glob pattern to exclude (repeatable)",
       []⟩,
     switch .includeTests ["--include-tests"] "Also analyze *.test.* and *.spec.* files",
     outputOption "Directory for the HTML report", htmlOption, failOnErrorOption]

def callpathGrammar : Grammar :=
  subcommand "callpath"
    ["Show the call paths that lead to FUNCTION.",
     "PATHS are files or directories to scan (default: the current directory)."]
    [⟨.function, "FUNCTION", .text, .one⟩, ⟨.paths, "PATHS", .path ⟨true, true, true⟩, .many⟩]
    [⟨.depth, ["--depth"], [], some .natural, some "10", "Maximum number of caller levels",
       ["default: 10", "x>=0"]⟩,
     switch .includeTests ["--include-tests"] "Also scan *.test.* and *.spec.* files"]

def graphGrammar : Grammar :=
  subcommand "graph" ["Print the control flow graph of FUNCTION in PATH as Mermaid."]
    [⟨.path, "PATH", fileType, .one⟩, ⟨.function, "FUNCTION", .text, .one⟩]
    [⟨.line, ["--line"], [], some .integer, none, "Pick the definition declared on this line", []⟩]

/-- The commands by name, in the order in which they are listed. -/
def subcommands : List (String × Grammar) :=
  [("callpath", callpathGrammar), ("file", fileGrammar), ("graph", graphGrammar),
   ("project", projectGrammar)]

end Tangle.Command

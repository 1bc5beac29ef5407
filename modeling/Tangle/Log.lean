/-
This file holds log records and results that carry them. Logging is data: a
computation returns what it logged beside its value, in order, and the outer
layer decides which levels are shown.
-/

namespace Tangle

/-- How serious a log record is. -/
inductive Level where
  | debug
  | info
  | warning
  | error
deriving DecidableEq

namespace Level

def name : Level → String
  | debug => "DEBUG"
  | info => "INFO"
  | warning => "WARNING"
  | error => "ERROR"

def rank : Level → Nat
  | debug => 10
  | info => 20
  | warning => 30
  | error => 40

end Level

/-- The part of the program that speaks in a log record. -/
inductive Channel where
  | reading
  | scoring
  | discovery
  | calls
  | configuration
  | settings
  | fileCommand
  | projectCommand
  | callpathCommand
  | graphCommand
  | report
deriving DecidableEq

/-- The name under which a channel appears in log lines. -/
def Channel.name : Channel → String
  | reading => "onion_tears.index.parser"
  | scoring => "onion_tears.index.complexity"
  | discovery => "onion_tears.index.discovery"
  | calls => "onion_tears.graph.callpath"
  | configuration => "onion_tears.config"
  | settings => "onion_tears.commands.common"
  | fileCommand => "onion_tears.commands.cmd_file"
  | projectCommand => "onion_tears.commands.cmd_project"
  | callpathCommand => "onion_tears.commands.cmd_callpath"
  | graphCommand => "onion_tears.commands.cmd_graph"
  | report => "onion_tears.output.report"

structure LogRecord where
  level : Level
  channel : Channel
  message : String
deriving DecidableEq

/-- One line of a log, as shown to the user. -/
def LogRecord.line (record : LogRecord) : String :=
  record.level.name ++ " " ++ record.channel.name ++ ": " ++ record.message

/-- A value together with what was logged on the way to it, oldest record first. -/
structure Logged (α : Type) where
  value : α
  records : List LogRecord

namespace Logged

instance : Monad Logged where
  pure value := ⟨value, []⟩
  bind first next := ⟨(next first.value).value, first.records ++ (next first.value).records⟩

theorem value_bind (first : Logged α) (next : α → Logged β) :
    (first >>= next).value = (next first.value).value :=
  rfl

/-- Logs one record. -/
def log (level : Level) (channel : Channel) (message : String) : Logged Unit :=
  ⟨(), [⟨level, channel, message⟩]⟩

/-- Runs a logging computation on each item in turn. -/
def each (items : List α) (step : α → Logged β) : Logged (List β) :=
  ⟨items.map fun item => (step item).value, items.flatMap fun item => (step item).records⟩

end Logged

end Tangle

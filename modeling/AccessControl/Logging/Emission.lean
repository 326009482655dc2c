import AccessControl.Logging.Config
import AccessControl.Text.Lines

/-!
# Emitting log records

Which lines a configuration writes for records of dotted logger names. The nearest logger at or
above the name that has a level decides whether records of a level pass, which is settled when the
first of them is made; a record goes to the handlers on the way up to the first logger that keeps
its records; and the handler drops what is below its own level.
-/
namespace AccessControl

/-- A record of a logger, with the time and the place in the code that lines may show. -/
structure Emission where
  logger : String
  level : LogLevel
  message : String
  time : String
  location : String
  deriving DecidableEq, Repr

/-- The state of one logger: its own level, its number of handlers and whether records go on to the
loggers above. -/
structure LoggerState where
  level : Option LogLevel
  handlers : Nat
  propagate : Bool
  deriving DecidableEq, Repr

/-- The known loggers above a name, nearest first. They are sought dot by dot from the name's end,
so its characters are given from there. Where the name in front of a dot is not known, its last
character is `passed` over too, so that of two dots in a row one is missed. -/
def loggersAbove (known : List String) (passed : Bool) : List Char → List String
  | [] => []
  | c :: above =>
    if c = '.' ∧ !passed ∧ !above.isEmpty then
      let name := String.ofList above.reverse
      if known.contains name then name :: loggersAbove known false above
      else loggersAbove known true above
    else loggersAbove known false above

/-- What earlier records leave behind: the loggers that they made known, and for which levels of a
logger it is settled whether records pass. -/
structure LogMemory where
  known : List String
  settled : List ((String × LogLevel) × Bool)
  deriving DecidableEq, Repr

namespace LogConfig

/-- The state of a named logger: only loggers with rules have one of their own. -/
def state (c : LogConfig) (name : String) : LoggerState :=
  match c.rules.find? fun rule => rule.name = name with
  | some rule => ⟨some rule.level, 1, false⟩
  | none => ⟨none, 0, true⟩

def rootState (c : LogConfig) : LoggerState := ⟨some c.level, 1, true⟩

def memory (c : LogConfig) : LogMemory := ⟨c.rules.map LoggerRule.name, []⟩

/-- The states from a logger up to the root. -/
def chain (c : LogConfig) (known : List String) (name : String) : List LoggerState :=
  (name :: loggersAbove known false name.toList.reverse).map c.state ++ [c.rootState]

/-- The level from which on a logger's records pass: the nearest one set. -/
def threshold (c : LogConfig) (known : List String) (name : String) : LogLevel :=
  ((c.chain known name).findSome? LoggerState.level).getD c.level

def passes (c : LogConfig) (m : LogMemory) (name : String) (level : LogLevel) : Bool :=
  (m.settled.lookup (name, level)).getD ((c.threshold m.known name).rank ≤ level.rank)

def remember (c : LogConfig) (m : LogMemory) (name : String) (level : LogLevel) : LogMemory :=
  ⟨name :: m.known, ((name, level), c.passes m name level) :: m.settled⟩

/-- The handlers on the way up to the first logger that keeps its records. -/
def handlersOn : List LoggerState → Nat
  | [] => 0
  | s :: rest => s.handlers + if s.propagate then handlersOn rest else 0

def timesWritten (c : LogConfig) (m : LogMemory) (logger : String) (level : LogLevel) : Nat :=
  if c.passes m logger level ∧ c.level.rank ≤ level.rank then
    handlersOn (c.chain m.known logger)
  else 0

/-- The text of one part of a record's line. The root's own records carry its name. -/
def partText (e : Emission) : LinePart → String
  | .fixed text => text
  | .time => e.time
  | .level => e.level.text
  | .logger => if e.logger.isEmpty then "root" else e.logger
  | .location => e.location
  | .message => e.message

def line (c : LogConfig) (e : Emission) : String :=
  String.join (c.format.parts.map (partText e))

/-- The lines that the line of a record and its line feed make, as the record's texts may hold line
ends of their own. -/
def linesOnce (c : LogConfig) (e : Emission) : List String :=
  (Text.lines ((c.line e).toList ++ ['\n'])).map String.ofList

def linesFrom (c : LogConfig) (m : LogMemory) : List Emission → List String
  | [] => []
  | e :: rest =>
    (List.replicate (c.timesWritten m e.logger e.level) (c.linesOnce e)).flatten ++
      c.linesFrom (c.remember m e.logger e.level) rest

def lines (c : LogConfig) (es : List Emission) : List String := c.linesFrom c.memory es

/-- The logger and the record about the configuration itself, made at the lowest level. -/
def announcement (c : LogConfig) : Option (String × LogRecord) :=
  if c.level = .debug then
    some ("authz.config.logging_config",
      ⟨.debug, "Logging configured: level=" ++ c.level.text⟩)
  else none

end LogConfig

end AccessControl

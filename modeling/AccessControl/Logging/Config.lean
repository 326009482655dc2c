import AccessControl.Json.Basic
import AccessControl.Logging.Level
import AccessControl.Text.Case

/-!
# Log configuration

How much is logged and in which form, as three environment variables say. One console handler serves
every configured logger; noisy libraries log errors only, and the authentication modules are kept
down unless their records are asked for.
-/
namespace AccessControl

def LogLevel.ofVerbosity (word : String) : LogLevel :=
  match Text.upper word with
  | "QUIET" => .error
  | "VERBOSE" => .info
  | "DEBUG" => .debug
  | _ => .warning

inductive LineFormat
  | simple
  | detailed
  | json
  deriving DecidableEq, Repr

/-- The form that a word names, letter case aside; an unknown word means the simple one. -/
def LineFormat.ofWord (word : String) : LineFormat :=
  match Text.lower word with
  | "json" => .json
  | "detailed" => .detailed
  | _ => .simple

/-- One part of a log line: fixed text, or something about the record. -/
inductive LinePart
  | fixed (text : String)
  | time
  | level
  | logger
  | location
  | message
  deriving DecidableEq, Repr

def LineFormat.parts : LineFormat → List LinePart
  | .simple => [.time, .fixed " - ", .level, .fixed " - ", .message]
  | .detailed =>
    [.time, .fixed " - ", .logger, .fixed " - ", .level, .fixed " - [", .location, .fixed "] - ",
      .message]
  | .json =>
    [.fixed "\x7b\"time\":\"", .time, .fixed "\",\"level\":\"", .level, .fixed "\",\"module\":\"",
      .logger, .fixed "\",\"message\":\"", .message, .fixed "\"\x7d"]

def LinePart.placeholder : LinePart → String
  | .fixed text => text
  | .time => "%(asctime)s"
  | .level => "%(levelname)s"
  | .logger => "%(name)s"
  | .location => "%(filename)s:%(lineno)d"
  | .message => "%(message)s"

def LineFormat.template (format : LineFormat) : String :=
  String.join (format.parts.map LinePart.placeholder)

/-- A logger that has a level of its own and the console handler, and keeps its records from the
loggers above it. -/
structure LoggerRule where
  name : String
  level : LogLevel
  deriving DecidableEq, Repr

/-- A log configuration: the level of the console handler and of every logger without a rule, the
form of the lines and the loggers with rules. -/
structure LogConfig where
  level : LogLevel
  format : LineFormat
  rules : List LoggerRule
  deriving DecidableEq, Repr

namespace LogConfig

def errorOnly : List String := ["httpx", "httpcore", "asyncio"]

def authentication : List String := ["authz.features.auth"]

def ofEnvironment (env : List (String × String)) : LogConfig :=
  let level := LogLevel.ofVerbosity ((env.lookup "LOG_VERBOSITY").getD "NORMAL")
  let format := LineFormat.ofWord ((env.lookup "LOG_FORMAT").getD "simple")
  let authLogging := Text.lower ((env.lookup "ENABLE_AUTH_LOGGING").getD "false") = "true"
  { level, format
    rules := errorOnly.map (⟨·, .error⟩) ++
      if authLogging then []
      else authentication.map (⟨·, if level = .debug then .info else .warning⟩) }

def toJson (c : LogConfig) : Json :=
  let console := Json.arr [.str "console"]
  .obj [("version", .int 1), ("disable_existing_loggers", .bool false),
    ("formatters", .obj [("default", .obj [("format", .str c.format.template),
      ("datefmt", .str "%Y-%m-%d %H:%M:%S")])]),
    ("handlers", .obj [("console", .obj [("class", .str "logging.StreamHandler"),
      ("level", .str c.level.text), ("formatter", .str "default"),
      ("stream", .str "ext://sys.stdout")])]),
    ("root", .obj [("level", .str c.level.text), ("handlers", console)]),
    ("loggers", .obj (c.rules.map fun rule => (rule.name, .obj [("level", .str rule.level.text),
      ("handlers", console), ("propagate", .bool false)])))]

end LogConfig

end AccessControl

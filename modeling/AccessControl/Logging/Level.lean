/-!
# Log levels and records

A record is a level and a message; levels are ordered by how severe they are.
-/
namespace AccessControl

inductive LogLevel
  | debug
  | info
  | warning
  | error
  | critical
  deriving DecidableEq, Repr

namespace LogLevel

def text : LogLevel → String
  | .debug => "DEBUG"
  | .info => "INFO"
  | .warning => "WARNING"
  | .error => "ERROR"
  | .critical => "CRITICAL"

def ofText? (word : String) : Option LogLevel :=
  [debug, info, warning, error, critical].find? fun level => level.text = word

def rank : LogLevel → Nat
  | .debug => 10
  | .info => 20
  | .warning => 30
  | .error => 40
  | .critical => 50

def max (a b : LogLevel) : LogLevel := if a.rank < b.rank then b else a

end LogLevel

structure LogRecord where
  level : LogLevel
  message : String
  deriving DecidableEq, Repr

end AccessControl

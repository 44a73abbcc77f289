/-!
# Log records

A record has a level, a target, which names the part of the program that wrote it, and a text.
-/

set_option autoImplicit false

namespace NativeBootstrap

/-- Levels of log records, from the gravest on. -/
inductive Level where
  | error
  | warn
  | info
  | debug
  | trace
  deriving DecidableEq, Repr

namespace Level

/-- All levels, in order. -/
def all : List Level := [.error, .warn, .info, .debug, .trace]

/-- How many levels are at least as grave as this one. -/
def rank : Level → Nat
  | .error => 1
  | .warn => 2
  | .info => 3
  | .debug => 4
  | .trace => 5

/-- The name of a level. -/
def name : Level → String
  | .error => "ERROR"
  | .warn => "WARN"
  | .info => "INFO"
  | .debug => "DEBUG"
  | .trace => "TRACE"

end Level

/-- A log record. -/
structure Record where
  level : Level
  target : String
  text : String
  deriving DecidableEq, Repr

end NativeBootstrap

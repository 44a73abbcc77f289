import NativeBootstrap.Error
import NativeBootstrap.Log.Record
import NativeBootstrap.Variant

/-!
# Events

The events that the library logs, by what happened. `Event.record` gives each its level, its target
and its wording. `Logged` pairs a value with the events on the way to it, oldest first, and
`orWarn` turns an error into a warning.
-/

set_option autoImplicit false

namespace NativeBootstrap

/-- What is logged. -/
inductive Event where
  /-- Bringing up the libraries begins. -/
  | resolving
  /-- A variant was selected for the host. -/
  | selected (host : Host.Descriptor) (variant : Variant)
  /-- An error was noted and dropped: what failed, and the error's message. -/
  | dropped (what message : String)
  /-- A library is about to be opened. -/
  | opening (path : Path)
  /-- All libraries are loaded. -/
  | ready (libsDir : Path)
  /-- The libraries cannot be brought up. -/
  | failed (error : BootstrapError)
  /-- A function of a library is about to be called. -/
  | calling (symbol : String)
  /-- A property of the host, as the program lists it. -/
  | property (key value : String)
  /-- The program goes on with the libraries in this directory. -/
  | using (libsDir : Path)
  deriving DecidableEq, Repr

namespace Event

/-- The level of an event. -/
def level : Event → Level
  | .resolving => .info
  | .selected _ _ => .debug
  | .dropped _ _ => .warn
  | .opening _ => .info
  | .ready _ => .info
  | .failed _ => .error
  | .calling _ => .debug
  | .property _ _ => .debug
  | .using _ => .info

/-- The part of the program that logs an event. -/
def target : Event → String
  | .resolving => "clogger_bridge::bootstrap"
  | .selected _ _ => "clogger_bridge::bootstrap"
  | .dropped _ _ => "clogger_host::ext"
  | .opening _ => "clogger_bridge::library"
  | .ready _ => "clogger_bridge::bootstrap"
  | .failed _ => "clogger_bridge::bootstrap"
  | .calling _ => "clogger_bridge::foreign"
  | .property _ _ => "clogger_shim"
  | .using _ => "clogger_shim"

/-- The wording of an event. -/
def text : Event → String
  | .resolving => "resolving native libraries"
  | .selected host variant =>
    "host: " ++ host.family.name ++ " " ++ host.wordSize.name ++ "-bit -> " ++ variant.arch.name
      ++ "/" ++ variant.config.name
  | .dropped what message => what ++ ": " ++ message
  | .opening path => "load library: " ++ path.display
  | .ready libsDir => "native libraries ready: " ++ libsDir.display
  | .failed error => "native library bootstrap failed: " ++ error.message
  | .calling symbol => "calling \"" ++ symbol ++ "\""
  | .property key value => key ++ " = " ++ value
  | .using libsDir => "native libraries: " ++ libsDir.display

/-- An event as a log record. -/
def record (e : Event) : Record := ⟨e.level, e.target, e.text⟩

end Event

/-- A value, and the events on the way to it. -/
structure Logged (α : Type) where
  value : α
  events : List Event
  deriving DecidableEq, Repr

/-- The value of a result; an error is logged under what failed, and dropped. -/
def orWarn {ε α : Type} (what : String) (message : ε → String) : Except ε α → Logged (Option α)
  | .ok value => ⟨some value, []⟩
  | .error error => ⟨none, [.dropped what (message error)]⟩

end NativeBootstrap

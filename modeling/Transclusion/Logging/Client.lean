import Transclusion.Inclusion.Run
import Transclusion.Logging.Settings
import Transclusion.Trace

/-! The client of the log.

Records go to a client that is configured from the settings. The settings are
read once and read again only by force; the client is configured anew when they
differ from those that it was configured for, or by force. A logger makes sure
of the configuration when it is used for the first time. -/
namespace Transclusion.Logging

open Inclusion (Run)

/-- What the client is configured for. -/
structure Configuration where
  enabled : Bool
  console : Bool
  fingerprint : Option String
  deriving DecidableEq, Repr

structure Client where
  environment : Environment
  /-- The settings as they were last read. -/
  settings : Option Settings
  configuration : Option Configuration
  /-- The loggers that have been used. -/
  loggers : List String
  trace : Trace
  deriving Inhabited

namespace Client

def empty : Client := ⟨[], none, none, [], []⟩

/-- Sets a variable of the environment, or takes it away. -/
def setVariable (c : Client) (name : String) (value : Option String) : Client :=
  let others := c.environment.filter fun (n, _) => n ≠ name
  { c with environment := match value with
    | some v => (name, v) :: others
    | none => others }

def write (r : Record) : Run Client Unit := .change fun c => { c with trace := c.trace ++ [.record r] }

def configured (c : Configuration) : Record :=
  ⟨.configure, "", "", [("send_to_logfire", if c.enabled then .text "if-token-present" else .bool false),
    ("console", if c.console then .null else .bool false), ("scrubbing", .bool false)]⟩

/-- The settings, read if they have not been. -/
def readSettings : Run Client Settings := do
  let c ← get
  match c.settings with
  | some s => pure s
  | none =>
    let s ← Run.ofExcept (Settings.ofEnvironment c.environment)
    Run.change fun c => { c with settings := some s }
    pure s

/-- Configures the client, if the settings differ or by force. -/
def refresh (force : Bool) : Run Client Unit := do
  if force then Run.change fun c => { c with settings := none }
  let s ← readSettings
  let desired : Configuration := ⟨s.enabled, s.console, fingerprint? s.token⟩
  if force || (← get).configuration ≠ some desired then do
    write (configured desired)
    Run.change fun c => { c with configuration := some desired }

/-- Makes sure that a logger is ready. -/
def ready (tag : String) : Run Client Unit := do
  if !(← get).loggers.contains tag then do
    refresh false
    Run.change fun c => { c with loggers := tag :: c.loggers }

def log (level : Level) (tag wording : String) (particulars : Bindings) : Run Client Unit := do
  ready tag
  write ⟨level, tag, wording, particulars⟩

/-- Runs within a span of this wording. -/
def spanning {α : Type} (tag wording : String) (particulars : Bindings) (m : Run Client α) :
    Run Client α := do
  ready tag
  write ⟨.span, tag, wording, particulars⟩
  m.finallyDo fun c => .ok { c with trace := c.trace ++ [.record ⟨.endSpan, tag, wording, []⟩] }

/-- Runs within a span of an operation. -/
def span {α : Type} (tag operation : String) (particulars : Bindings) (m : Run Client α) :
    Run Client α :=
  spanning tag (Record.spanWording tag operation) particulars m

/-- Runs a named function within a span; the span has the function's name unless it is given one. -/
def traced {α : Type} (tag : String) (name : Option String) (function : String) (m : Run Client α) :
    Run Client α :=
  let wording := match name with
    | some n => if n = "" then Record.spanWording tag function else n
    | none => Record.spanWording tag function
  spanning tag wording [("extract_args", .bool true), ("record_return", .bool true)] m

end Client

end Transclusion.Logging

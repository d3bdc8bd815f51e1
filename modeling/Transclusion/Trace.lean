import Transclusion.Path
import Transclusion.Scope
import Transclusion.Value.Printing

/-! Traces.

What happens while directives run leaves a trace, a list of events in the order
in which they happened. Some are *records* for a reader, with a level, the name
of the part that wrote them and named particulars; the others tell which
directives were entered and left, which sources were compiled, which strategies
were asked for search roots, which paths were looked up or read, and which
partials ran, and in which scope. Directives nest: what happens between the
entry of one and its exit is its own (`own`) unless it happens within a further
directive. -/
namespace Transclusion

inductive Level where
  | debug
  | info
  | warn
  | error
  | span
  /-- The end of a span, however it ended. -/
  | endSpan
  /-- A change of where records are sent. -/
  | configure
  deriving DecidableEq, Repr

def Level.text : Level → String
  | debug => "debug"
  | info => "info"
  | warn => "warn"
  | error => "error"
  | span => "span"
  | endSpan => "end"
  | configure => "configure"

structure Record where
  level : Level
  /-- The part that writes the record. -/
  tag : String
  /-- The wording, with the names of particulars in braces. -/
  wording : String
  particulars : Bindings
  deriving Repr

namespace Record

/-- The wording of a span of an operation. -/
def spanWording (tag operation : String) : String := s!"{tag}:{operation}"

def opening (tag operation : String) (particulars : Bindings) : Record :=
  ⟨.span, tag, spanWording tag operation, particulars⟩

def closing (tag operation : String) : Record := ⟨.endSpan, tag, spanWording tag operation, []⟩

end Record

inductive Event where
  | record (r : Record)
  /-- A directive of this name was entered. -/
  | enter (tag : String)
  /-- The directive that was entered last was left, however it ended. -/
  | leave
  /-- A compiler was given the source of this name. -/
  | compile (name : String)
  /-- A strategy was asked for its search roots. -/
  | search (strategy : String)
  /-- A path was looked up. -/
  | lookup (path : Path)
  /-- The file at a path was read. -/
  | read (path : Path)
  /-- The partial at a path was started in a scope. -/
  | start (path : Path) (scope : Scope)

/-- Events in the order in which they happened. -/
abbrev Trace := List Event

namespace Trace

/-- The records of a trace. -/
def records (trace : Trace) : List Record :=
  trace.filterMap fun
    | .record r => some r
    | _ => none

/-- The names of the compiled sources. -/
def compiled (trace : Trace) : List String :=
  trace.filterMap fun
    | .compile name => some name
    | _ => none

/-- The events of the directive that is entered first, without those of directives within it. `level`
counts the directives that are open. -/
def own : (level : Nat) → Trace → Trace
  | _, [] => []
  | level, .enter _ :: rest => own (level + 1) rest
  | level, .leave :: rest => own (level - 1) rest
  | level, event :: rest => if level = 1 then event :: own level rest else own level rest

/-- How often a strategy was asked. -/
def searches (trace : Trace) : Nat :=
  trace.countP fun
    | .search _ => true
    | _ => false

end Trace

end Transclusion

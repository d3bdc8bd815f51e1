import Transclusion.Directive.Invocation
import Transclusion.Directive.Notices
import Transclusion.Inclusion.Run

/-! Hosts.

Partials are written in the language of a host. The host compiles a source to a
form of its own; running the form is described by a *script*, which reads the
scope, binds names in the innermost layer and asks for inclusions, one after
another, and ends with the text of the partial. Compiling meets directives, and
so prepares invocations and announces notices: it changes the desk, which
outlives rendering passes, but never the scope. -/
namespace Transclusion.Inclusion

open Directive

/-- What outlives a rendering pass: announced notices, invocations already prepared, and the trace. -/
structure Desk where
  notices : Notices
  memo : List ((String × String) × Invocation)
  trace : Trace
  deriving Inhabited

namespace Desk

def empty : Desk := ⟨.empty, [], []⟩

def add (d : Desk) (event : Event) : Desk := { d with trace := d.trace ++ [event] }

end Desk

def note (event : Event) : Run Desk Unit := .change (·.add event)

def record (r : Record) : Run Desk Unit := note (.record r)

/-- Announces a notice, once. -/
def announce (tag key detail : String) (particulars : Bindings) : Run Desk Unit :=
  .change fun d =>
    match d.notices.announce tag key detail particulars with
    | (notices, some r) => { d with notices }.add (.record r)
    | (notices, none) => { d with notices }

/-- Who prepares invocations: the known directives, and the name under which notices are announced,
if they are. -/
structure Clerk where
  registry : Registry
  noticeTag : Option String

/-- The invocation that a directive's markup writes. A notice on the directive is announced before
the markup is checked. -/
def Clerk.prepare (clerk : Clerk) (tag : String) (markup : List Char) : Run Desk Invocation := do
  let entry ← Run.ofExcept (clerk.registry.entry tag)
  match clerk.noticeTag, entry.deprecation with
  | some noticeTag, some detail =>
    if detail ≠ "" then announce noticeTag tag detail [("directive", .text tag)]
  | _, _ => pure ()
  Run.ofExcept (Invocation.ofMarkup tag markup entry.strategy)

/-- The invocation that a directive's markup writes, without a notice. -/
def Clerk.invocation (clerk : Clerk) (tag : String) (markup : List Char) : Except Fault Invocation := do
  let entry ← clerk.registry.entry tag
  Invocation.ofMarkup tag markup entry.strategy

/-- The invocation of a directive, prepared at its first use and remembered. -/
def Clerk.remembered (clerk : Clerk) (tag : String) (markup : List Char) : Run Desk Invocation := do
  let key := (tag, String.ofList markup)
  match (← get).memo.lookup key with
  | some invocation => pure invocation
  | none =>
    let invocation ← clerk.prepare tag markup
    Run.change fun d => { d with memo := (key, invocation) :: d.memo }
    pure invocation

/-- What a run of a compiled partial does, step by step. -/
inductive Script (α : Type) where
  | done (result : α)
  | fail (fault : Fault)
  | look (next : Scope → Script α)
  /-- Binds a name in the innermost layer. -/
  | bind_ (name : String) (value : Value) (next : Script α)
  /-- Includes a partial, within a layer of its own if one is given. -/
  | call (invocation : Invocation) (frame : Option Bindings) (next : String → Script α)

namespace Script

variable {α β : Type}

/-- One script, and with its result another. -/
def andThen (s : Script α) (f : α → Script β) : Script β :=
  match s with
  | done a => f a
  | fail fault => fail fault
  | look next => look fun scope => (next scope).andThen f
  | bind_ name value next => bind_ name value (next.andThen f)
  | call invocation frame next => call invocation frame fun text => (next text).andThen f

instance : Monad Script where
  pure := done
  bind := andThen

/-- A script without steps. -/
def ofExcept : Except Fault α → Script α
  | .ok a => done a
  | .error fault => fail fault

/-- What a script ends with if it takes no steps. -/
def result? : Script α → Option α
  | done a => some a
  | _ => none

end Script

/-- What is compiled: bytes as they are read, or a text. -/
inductive Source where
  | bytes (content : List UInt8)
  | text (content : List Char)

structure Host (C : Type) where
  compile : Source → (name : String) → Run Desk C
  script : C → Script String
  /-- The value of a bare argument whose variable is not set. -/
  unset : String → Value
  /-- Whether a fault means that a source is not accepted. -/
  rejects : Fault → Bool
  /-- Whether a fault means that a run stopped. -/
  stops : Fault → Bool
  /-- What values have under a name, where a bare argument asks for it. -/
  attributes : Attributes := .common
  /-- The depth to which inclusions nest. -/
  nesting : Nat := nestingLimit

namespace Host

variable {C : Type} (host : Host C)

/-- Whether a fault that leaves a partial arose there, and is to be wrapped. -/
def wraps : Fault → Bool
  | .execution _ _ _ => false
  | fault => fault.isInclusion || host.stops fault

/-- A fault as it leaves the partial at a path: wrapped where it arose, extended behind that. A fault
that is neither one of inclusion nor one of the host's runs leaves as it is. -/
def leaving (path : String) : Fault → Fault
  | .execution source cause crossed => (Fault.execution source cause crossed).crossing path
  | fault => if host.wraps fault then .execution path fault [] else fault

end Host

end Transclusion.Inclusion

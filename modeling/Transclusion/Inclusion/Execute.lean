import Transclusion.Inclusion.Cache

/-! Executing directives.

A directive runs in stages: its reference is evaluated if it is templated, and
checked; the search roots are asked for and searched; the partial is fetched;
the arguments are given their values in the scope at hand; and the partial runs
in a layer of its own, in which the name `include` is bound to the arguments if
there are any. The layer is popped however the partial ends.

A fault inside the partial is wrapped at the partial that it arose in and
extended at every further one that it crosses; a fault that is neither one of
inclusion nor one of the host's runs passes unchanged. Inclusions nest to a
given depth at most. -/
namespace Transclusion.Inclusion

open Directive

/-- What a pass runs in: the files, the site and the document that is rendered, if any. -/
structure Setting where
  files : Files
  site : Site
  document : Option Document

/-- The state of a rendering pass. -/
structure Pass (C : Type) where
  scope : Scope
  store : Store C

namespace Pass

variable {C α : Type}

def cache (p : Pass C) : Cache C := p.store.cache

def desk (p : Pass C) : Desk := p.store.desk

/-- A pass over these variables, with nothing compiled yet. -/
def fresh (desk : Desk) (bindings : Bindings) : Pass C := ⟨.ofBindings bindings, ⟨.empty, desk⟩⟩

/-- Runs on the cache and the desk alone. -/
def onStore (m : Run (Store C) α) : Run (Pass C) α :=
  .zoom Pass.store (fun store p => { p with store }) m

def onDesk (m : Run Desk α) : Run (Pass C) α := onStore (Store.onDesk m)

def onScope (f : Scope → Scope) : Run (Pass C) Unit := .change fun p => { p with scope := f p.scope }

def add (p : Pass C) (event : Event) : Pass C :=
  { p with store := { p.store with desk := p.desk.add event } }

def leaveLayer (p : Pass C) : Except Fault (Pass C) := (p.scope.pop).map fun scope => { p with scope }

end Pass

/-- The name under which a partial finds its arguments. -/
def argumentsName : String := "include"

/-- The name under which templated references are compiled. -/
def referenceName : String := "<include reference>"

/-- The record of a reference that is nowhere. -/
def notFoundRecord (reference : String) (roots : List String) : Record :=
  ⟨.warn, "directive-resolver", "Include reference \x7breference\x7d not found",
    [("reference", .text reference), ("roots", .texts roots)]⟩

def failedRecord (path : String) (fault : Fault) : Record :=
  ⟨.error, "include-executor", "Included file \x7bpath\x7d failed",
    [("path", .text path), ("error_type", .text fault.kind)]⟩

/-- The first of the roots that holds a file under the reference. -/
def searchRoots (files : Files) (reference : String) : List String → Run Desk (Option Path)
  | [] => pure none
  | root :: rest => do
    let path := joinReference (.ofString root) reference.toList
    note (.lookup path)
    -- A path that cannot be looked up ends the search, whatever the other roots hold.
    if ← Run.ofExcept ((files.isFile path).mapError fun fault => .lookup fault path.toString) then
      pure (some path)
    else searchRoots files reference rest

/-- The file that a reference names. -/
def locate (files : Files) (reference : String) (roots : List String) : Run Desk Path := do
  match ← searchRoots files reference roots with
  | some path => pure path
  | none =>
    record (notFoundRecord reference roots)
    throw (.notFound reference roots)

section
variable {C α : Type}

/-- Runs within one more layer, which is popped however the run ends. -/
def withinLayer (bindings : Bindings) (m : Run (Pass C) α) : Run (Pass C) α := do
  Pass.onScope (·.push bindings)
  m.finallyDo Pass.leaveLayer

/-- Runs between the two records of a span. -/
def withinSpan (tag operation : String) (particulars : Bindings) (m : Run (Pass C) α) :
    Run (Pass C) α := do
  Pass.onDesk (record (.opening tag operation particulars))
  m.finallyDo fun p => .ok (p.add (.record (.closing tag operation)))

/-- Runs between the entry and the exit of a directive. -/
def withinDirective (tag : String) (m : Run (Pass C) α) : Run (Pass C) α := do
  Pass.onDesk (note (.enter tag))
  m.finallyDo fun p => .ok (p.add .leave)

/-- Plays a script; `inclusion` executes what the script includes. -/
def Script.play (inclusion : Invocation → Run (Pass C) String) : Script α → Run (Pass C) α
  | .done a => pure a
  | .fail fault => throw fault
  | .look next => do (next (← get).scope).play inclusion
  | .bind_ name value next => do
    Pass.onScope (·.set name value)
    next.play inclusion
  | .call invocation none next => do (next (← inclusion invocation)).play inclusion
  | .call invocation (some frame) next => do
    (next (← withinLayer frame (inclusion invocation))).play inclusion

variable (host : Host C) (setting : Setting)

/-- The reference of an invocation, evaluated if it is templated. -/
def effectiveReference (inclusion : Invocation → Run (Pass C) String) (invocation : Invocation) :
    Run (Pass C) String :=
  if invocation.markup.isTemplated then do
    let compiled ← Pass.onDesk do
      note (.compile referenceName)
      host.compile (.text invocation.markup.reference) referenceName
    (host.script compiled).play inclusion
  else pure (String.ofList invocation.markup.reference)

/-- The file that an invocation includes, by its effective reference. -/
def findPartial (invocation : Invocation) (reference : String) : Run Desk Path := do
  Run.ofExcept (checkReference invocation.tag reference)
  note (.search invocation.strategy.name)
  locate setting.files reference (invocation.strategy.roots setting.site setting.document)

/-- The values of the arguments in the scope at hand, if there are arguments. -/
def evaluateArguments (invocation : Invocation) : Run (Pass C) (Option Bindings) := do
  match invocation.markup.arguments with
  | none => pure none
  | some arguments =>
    let bindings ← Run.ofExcept (bindArguments (← get).scope host.unset arguments host.attributes)
    pure (some bindings)

/-- Plays a compiled partial; a fault on the way out is wrapped or extended. -/
def runPartial (inclusion : Invocation → Run (Pass C) String) (compiled : C) (path : Path) :
    Run (Pass C) String := do
  let scope := (← get).scope
  Pass.onDesk (note (.start path scope))
  ((host.script compiled).play inclusion).onFault fun fault => do
    if host.wraps fault then Pass.onDesk (record (failedRecord path.toString fault))
    throw (host.leaving path.toString fault)

/-- Binds the arguments, if there are any, and plays the partial. -/
def runWith (inclusion : Invocation → Run (Pass C) String) (arguments : Option Bindings) (compiled : C)
    (path : Path) : Run (Pass C) String := do
  match arguments with
  | some bindings => Pass.onScope (·.set argumentsName (.ofBindings bindings))
  | none => pure ()
  runPartial host inclusion compiled path

/-- Includes the partial that a reference names; `fetch` gives compiled partials, and `inclusion` executes
the directives within. -/
def includeReference (fetch : Path → Run (Store C) C) (inclusion : Invocation → Run (Pass C) String)
    (invocation : Invocation) (reference : String) : Run (Pass C) String := do
  let path ← Pass.onDesk (findPartial setting invocation reference)
  let compiled ← Pass.onStore (fetch path)
  let arguments ← evaluateArguments host invocation
  withinSpan "include-executor" "include"
    [("tag", .text invocation.tag), ("reference", .text reference), ("path", .text path.toString)]
    (withinLayer [] (runWith host inclusion arguments compiled path))

/-- The stages of a directive, one after another. -/
def stages (fetch : Path → Run (Store C) C) (inclusion : Invocation → Run (Pass C) String)
    (invocation : Invocation) : Run (Pass C) String := do
  let reference ← effectiveReference host inclusion invocation
  includeReference host setting fetch inclusion invocation reference

/-- Executes a directive; `fetch` gives compiled partials, and inclusions nest to the depth at
most. -/
def executeWith (fetch : Path → Run (Store C) C) : (depth : Nat) → Invocation → Run (Pass C) String
  | 0, _ => throw .nesting
  | depth + 1, invocation =>
    withinDirective invocation.tag (stages host setting fetch (executeWith fetch depth) invocation)

/-- Executes a directive with the cache of its pass. -/
def execute (invocation : Invocation) : Run (Pass C) String :=
  executeWith host setting (fetch host setting.files) host.nesting invocation

/-- Executes a directive, compiling every partial anew. -/
def executeAnew (invocation : Invocation) : Run (Pass C) String :=
  executeWith host setting (fun path => Store.onDesk (fetchAnew host setting.files path)) host.nesting
    invocation

end

end Transclusion.Inclusion

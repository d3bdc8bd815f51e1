import Transclusion.Directive.Strategy
import Transclusion.Trace

/-! Directive registries.

A registry lists directive names in the order of their registration, each with
its search strategy and perhaps a notice that it should no longer be used. A
name is registered once. Registering the built-in names goes name by name and
stops at the first that is taken already, unless taken names are to be skipped. -/
namespace Transclusion.Directive

structure Entry where
  name : String
  strategy : Strategy
  deprecation : Option String

structure Registry where
  entries : List Entry
  deriving Inhabited

namespace Registry

def empty : Registry := ⟨[]⟩

def names (r : Registry) : List String := r.entries.map Entry.name

def find? (r : Registry) (name : String) : Option Entry := r.entries.find? (·.name == name)

def has (r : Registry) (name : String) : Bool := (r.find? name).isSome

def entry (r : Registry) (name : String) : Except Fault Entry :=
  match r.find? name with
  | some e => .ok e
  | none => .error (.unknownDirective name r.names)

def register (r : Registry) (name : String) (strategy : Strategy) (deprecation : Option String) :
    Except Fault Registry :=
  if r.has name then .error (.duplicateDirective name)
  else .ok ⟨r.entries ++ [⟨name, strategy, deprecation⟩]⟩

/-- Attaches a notice to a registered name. -/
def discourage (r : Registry) (name notice : String) : Except Fault Registry :=
  if r.has name then
    .ok ⟨r.entries.map fun e => if e.name = name then { e with deprecation := some notice } else e⟩
  else .error (.unknownDirective name r.names)

theorem names_discourage {r r' : Registry} {name notice : String}
    (h : r.discourage name notice = .ok r') : r'.names = r.names := by
  simp only [discourage] at h
  split at h
  · cases h
    simp only [names, List.map_map]
    refine List.map_congr_left fun e _ => ?_
    simp only [Function.comp]
    split <;> rfl
  · cases h

/-- The names that every site can use. -/
def builtins : List (String × Strategy) :=
  [("include_file", .includeRoots), ("include_relative", .documentDirectory)]

/-- What can be asked of a registry. -/
inductive Request where
  | register (name : String) (strategy : Strategy) (deprecation : Option String)
  | builtins (skipExisting : Bool)
  | has (name : String)
  | entry (name : String)
  | strategy (name : String)
  | deprecation (name : String)
  | discourage (name notice : String)
  | documentation

/-- How a registry answers, what it is then, and what it records. -/
structure Reply where
  outcome : Except Fault Value
  registry : Registry
  records : List Record

def registered (name : String) (strategy : Strategy) : Record :=
  ⟨.debug, "directive-registry", "Registered directive \x7bname\x7d",
    [("name", .text name), ("strategy", .text strategy.name)]⟩

/-- The record of a built-in name that could not be registered. -/
def notRegistered (name : String) (fault : Fault) : Record :=
  ⟨.error, "directive-bootstrap", "Failed to register directive",
    [("directive", .text name), ("error", .text fault.message), ("error_type", .text fault.kind)]⟩

/-- Registers names one after another, up to the first that is refused. -/
def registerAll (r : Registry) (skipExisting : Bool) : List (String × Strategy) → Reply
  | [] => ⟨.ok .null, r, []⟩
  | (name, strategy) :: rest =>
    if skipExisting && r.has name then registerAll r skipExisting rest
    else match r.register name strategy none with
      | .error fault => ⟨.error fault, r, [notRegistered name fault]⟩
      | .ok r' =>
        let later := registerAll r' skipExisting rest
        { later with records := registered name strategy :: later.records }

def registerBuiltins (r : Registry) (skipExisting : Bool) : Reply := r.registerAll skipExisting builtins

def describe (e : Entry) : Value :=
  .ofBindings [("name", .text e.name), ("strategy", .text e.strategy.name),
    ("deprecation", .ofText? e.deprecation)]

/-- All entries as a value. -/
def documentation (r : Registry) : Value :=
  .ofBindings (r.entries.map fun e => (e.name, describe e))

/-- An answer that changes nothing. -/
def look (r : Registry) (outcome : Except Fault Value) : Reply := ⟨outcome, r, []⟩

/-- A change, or the fault that kept it from being made. -/
def change (r : Registry) (outcome : Except Fault Registry) (records : List Record) : Reply :=
  match outcome with
  | .ok r' => ⟨.ok .null, r', records⟩
  | .error fault => ⟨.error fault, r, []⟩

def serve (r : Registry) : Request → Reply
  | .register name strategy deprecation =>
    r.change (r.register name strategy deprecation) [registered name strategy]
  | .builtins skipExisting => r.registerBuiltins skipExisting
  | .has name => r.look (.ok (.bool (r.has name)))
  | .entry name => r.look ((r.entry name).map describe)
  | .strategy name => r.look ((r.entry name).map fun e => .text e.strategy.name)
  | .deprecation name => r.look ((r.entry name).map fun e => .ofText? e.deprecation)
  | .discourage name notice => r.change (r.discourage name notice) []
  | .documentation => r.look (.ok r.documentation)

/-- Attaches notices one after another, up to the first unknown name. -/
def discourageAll (r : Registry) : List (String × String) → Except Fault Registry
  | [] => .ok r
  | (name, notice) :: rest => match r.discourage name notice with
    | .ok r' => r'.discourageAll rest
    | .error fault => .error fault

/-- The registry of the built-in names, with notices. -/
def ofBuiltins (notices : List (String × String)) : Except Fault Registry :=
  (registerBuiltins empty false).registry.discourageAll notices

end Registry

end Transclusion.Directive

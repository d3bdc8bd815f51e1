import Transclusion.Scope

/-! Programs over a scope.

A scope is changed by pushing and popping layers and by binding names. A block
holds a layer for as long as its body runs and pops it whether the body ends or
is interrupted; if that pop fails, its fault takes the place of whatever
interrupted the body. An attempt runs its body, keeps what interrupted it and
answers with it, and with the depth of the scope. -/
namespace Transclusion

/-- What interrupts a program over a scope. -/
inductive Interrupt where
  | fault (f : Fault)
  | raised (note : String)
  deriving Inhabited, Repr

inductive ScopeAction where
  | push (bindings : Bindings)
  | pop
  | set (name : String) (value : Value)
  /-- Looks a dotted name up, with a value to fall back on. -/
  | get (name : String) (default : Value)
  | contains (name : String)
  | flatten
  /-- Runs the body within one more layer. -/
  | block (bindings : Bindings) (body : List ScopeAction)
  | raise (note : String)
  /-- Runs the body and answers with its outcome. -/
  | attempt (body : List ScopeAction)
  deriving Repr

/-- What an attempt tells: its outcome, and the depth of the scope behind it. -/
structure ScopeAnswer where
  outcome : Except Interrupt Value
  depth : Nat

/-- How a program ends: with its outcome, the scope and the answers of its attempts. -/
structure ScopeRun where
  outcome : Except Interrupt Value
  scope : Scope
  answers : List ScopeAnswer

namespace ScopeAction

/-- A block's end: its layer is popped. -/
def leave (body : ScopeRun) : ScopeRun :=
  match body.scope.pop with
  | .ok scope => ⟨body.outcome.map fun _ => .null, scope, body.answers⟩
  | .error fault => ⟨.error (.fault fault), body.scope, body.answers⟩

/-- An attempt's end: its outcome becomes an answer. -/
def conclude (body : ScopeRun) : ScopeRun :=
  ⟨.ok .null, body.scope, body.answers ++ [⟨body.outcome, body.scope.depth⟩]⟩

/-- Lifts a fault to an interrupt. -/
def ofExcept : Except Fault Value → Except Interrupt Value
  | .ok v => .ok v
  | .error f => .error (.fault f)

mutual

def run (s : Scope) : ScopeAction → ScopeRun
  | push bindings => ⟨.ok .null, s.push bindings, []⟩
  | pop => match s.pop with
    | .ok t => ⟨.ok .null, t, []⟩
    | .error fault => ⟨.error (.fault fault), s, []⟩
  | set name value => ⟨.ok .null, s.set name value, []⟩
  | get name default => ⟨ofExcept ((s.get? name).map (·.getD default)), s, []⟩
  | contains name => ⟨.ok (.bool (s.contains name)), s, []⟩
  | flatten => ⟨.ok (.ofBindings s.flatten), s, []⟩
  | block bindings body => leave (runAll (s.push bindings) body)
  | raise note => ⟨.error (.raised note), s, []⟩
  | attempt body => conclude (runAll s body)

/-- Runs actions one after another, until one is interrupted; the outcome is that of the last. -/
def runAll (s : Scope) : List ScopeAction → ScopeRun
  | [] => ⟨.ok .null, s, []⟩
  | [action] => run s action
  | action :: rest =>
    let first := run s action
    match first.outcome with
    | .error _ => first
    | .ok _ =>
      let later := runAll first.scope rest
      ⟨later.outcome, later.scope, first.answers ++ later.answers⟩

end

end ScopeAction

end Transclusion

import Transclusion.Inclusion.Execute

/-! The plain reading of inclusion.

Layers, caches and records aside, a directive means this: its partial is
evaluated in the environment at hand, in which the name `include` is bound to
the arguments if there are any, and what the partial binds is gone when it ends.
An environment is one layer; nothing is pushed, popped or kept.

What a template sees at a directive is laid over the environment that it was
evaluated in, or takes its place: `lay` says which. The two differ where a template
sees less at a directive than it was given, as in the body of a macro of another
template. -/
namespace Transclusion.Inclusion

open Directive

section
variable {C α : Type} (lay : (environment frame : Bindings) → Bindings)

/-- Evaluates a script in an environment; `inclusion` evaluates there what the script includes. -/
def Script.evaluate (inclusion : Invocation → Bindings → Run Desk String) :
    Script α → Bindings → Run Desk α
  | .done a, _ => pure a
  | .fail fault, _ => throw fault
  | .look next, environment => (next (.ofBindings environment)).evaluate inclusion environment
  | .bind_ name value next, environment => next.evaluate inclusion (environment.insert name value)
  | .call invocation frame next, environment => do
    let text ← inclusion invocation (frame.elim environment (lay environment))
    (next text).evaluate inclusion environment

variable (host : Host C) (setting : Setting)

/-- The reference of an invocation in an environment. -/
def referenceIn (inclusion : Invocation → Bindings → Run Desk String) (invocation : Invocation)
    (environment : Bindings) : Run Desk String :=
  if invocation.markup.isTemplated then do
    let compiled ← host.compile (.text invocation.markup.reference) referenceName
    (host.script compiled).evaluate lay inclusion environment
  else pure (String.ofList invocation.markup.reference)

/-- The environment of a partial: `include` is bound anew if there are arguments. -/
def environmentFor (invocation : Invocation) (environment : Bindings) : Except Fault Bindings :=
  match invocation.markup.arguments with
  | none => .ok environment
  | some arguments =>
    (bindArguments (.ofBindings environment) host.unset arguments host.attributes).map fun values =>
      environment.insert argumentsName (.ofBindings values)

/-- Evaluates a directive in an environment; inclusions nest to the depth at most. -/
def evaluate : (depth : Nat) → Invocation → Bindings → Run Desk String
  | 0, _, _ => throw .nesting
  | depth + 1, invocation, environment => do
    let reference ← referenceIn lay host (evaluate depth) invocation environment
    let path ← findPartial setting invocation reference
    let compiled ← fetchAnew host setting.files path
    let inner ← Run.ofExcept (environmentFor host invocation environment)
    ((host.script compiled).evaluate lay (evaluate depth) inner).onFault fun fault =>
      throw (host.leaving path.toString fault)

end

end Transclusion.Inclusion

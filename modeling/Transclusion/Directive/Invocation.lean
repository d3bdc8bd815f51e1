import Transclusion.Directive.Arguments
import Transclusion.Directive.Markup
import Transclusion.Directive.Reference
import Transclusion.Directive.Registry
import Transclusion.Scope

/-! Invocations.

An invocation is a directive as it is written, with its arguments checked. Its
reference is checked when it is known, and its arguments are given values when
the directive runs, from the scope that it runs in: a quoted value stands for
itself, a bare one for the variable of that name. -/
namespace Transclusion.Directive

def syntaxExample (tag : String) : String :=
  "\x7b% " ++ tag ++ " file.ext param='value' param2='value' %\x7d"

/-- Refuses arguments that are not well formed. -/
def checkArguments (tag : String) (arguments : List Char) : Except Fault Unit :=
  if isWellFormed arguments then .ok ()
  else .error (.malformedArguments tag (String.ofList arguments) (syntaxExample tag))

def checkReference (tag reference : String) : Except Fault Unit :=
  if isSafeReference reference.toList then .ok ()
  else .error (.unsafeReference tag reference (syntaxExample tag))

structure Invocation where
  tag : String
  markup : Markup
  strategy : Strategy

def Invocation.ofMarkup (tag : String) (markup : List Char) (strategy : Strategy) :
    Except Fault Invocation :=
  let m := Markup.of markup
  match m.arguments with
  | none => .ok ⟨tag, m, strategy⟩
  | some arguments => (checkArguments tag arguments).map fun _ => ⟨tag, m, strategy⟩

/-- The value of an operand in a scope; `unset` stands in for a variable that is not set. -/
def Operand.value (o : Operand) (scope : Scope) (unset : String → Value)
    (table : Attributes := .common) : Except Fault Value :=
  match o with
  | .quoted mark body => .ok (.text (String.ofList (unquote mark body)))
  | .bare name =>
    let name := String.ofList name
    (scope.get? name table).map (·.getD (unset name))

/-- The values of assignments, one after another; the last value of a key counts. -/
def assignAll (scope : Scope) (unset : String → Value) (bindings : Bindings)
    (assignments : List Assignment) (table : Attributes := .common) : Except Fault Bindings :=
  match assignments with
  | [] => .ok bindings
  | a :: rest => match a.operand.value scope unset table with
    | .ok v => assignAll scope unset (bindings.insert (String.ofList a.key) v) rest table
    | .error fault => .error fault

/-- The values that an argument text gives to its keys. -/
def bindArguments (scope : Scope) (unset : String → Value) (arguments : List Char)
    (table : Attributes := .common) : Except Fault Bindings :=
  assignAll scope unset [] (occurrences arguments) table

end Transclusion.Directive

import Transclusion.Template.Access
import Transclusion.Text.Case
import Transclusion.Text.Identifier

/-! Filters.

A filter is a function of a value and of arguments, which are given by position
or by name. Names are bound first: one that no parameter has, or that has a value
already, is a fault even if there are too many positions too. What a filter
leaves out of its arguments has a fixed value. -/
namespace Transclusion.Template

inductive Filter where
  | upper
  | lower
  | fallback
  | join
  | length
  deriving DecidableEq, Repr

def filter? (name : String) : Option Filter :=
  [("upper", Filter.upper), ("lower", .lower), ("default", .fallback), ("d", .fallback),
    ("join", .join), ("length", .length), ("count", .length)].lookup name

/-- Whether there is a test of a name in the language itself. -/
def isTest (name : String) : Bool := ["defined", "undefined", "none"].contains name

namespace Options

def hasFilter (o : Options) (name : String) : Bool :=
  (filter? name).isSome || (o.library.filter? name).isSome

def hasTest (o : Options) (name : String) : Bool := isTest name || (o.library.test? name).isSome

end Options

/-- How a function takes its arguments. -/
structure Signature where
  function : String
  /-- Parameters to which no argument is given. -/
  hidden : List String
  parameters : List String
  /-- How many of the parameters, the first ones, need a value. -/
  required : Nat

namespace Signature

/-- Binds the arguments given by name after others. -/
def bindNamed (s : Signature) (bound : Bindings) : Bindings → Except Fault Bindings
  | [] => .ok bound
  | (name, v) :: rest =>
    if !(s.hidden ++ s.parameters).contains name then .error (.misuse (.unknownArgument s.function name))
    else if s.hidden.contains name || (bound.get? name).isSome then
      .error (.misuse (.repeatedArgument s.function name))
    else bindNamed s (bound ++ [(name, v)]) rest

/-- The values of the parameters that arguments give. -/
def bind (s : Signature) (g : Given) : Except Fault Bindings := do
  let bound ← s.bindNamed (s.parameters.zip g.positional) g.named
  if s.parameters.length < g.positional.length then
    let hidden := s.hidden.length
    .error (.misuse (.arguments s.function (hidden + s.required) (hidden + s.parameters.length)
      (hidden + g.positional.length)))
  else pure bound

end Signature

/-- A text with its letters changed; one that is safe stays so. -/
def mapText (o : Options) (f : List Char → List Char) (v : Value) : Except Fault Value :=
  match v with
  | .markup s => .ok (.markup (String.ofList (f s.toList)))
  | v => (o.textOf v).map fun s => .text (String.ofList (f s.toList))

/-- The steps to a part of an item: names between points, and positions where they are numbers. -/
def partSteps (address : Value) : List Value :=
  match address with
  | .null => []
  | .text s => (Text.splitOn '.' s.toList).map fun step =>
    let digits := step.map Text.decimalDigit?
    if step ≠ [] && digits.all Option.isSome then
      .int (digits.foldl (fun n d => n * 10 + (d.getD 0 : Int)) 0)
    else .text (String.ofList step)
  | v => [v]

/-- The part of an item at the end of some steps. -/
def partOf (o : Options) (item : Value) : List Value → Except Fault Value
  | [] => .ok item
  | step :: rest => do partOf o (← elementOf o item step) rest

/-- Items as one text, with a separator between them. -/
def joinPlain (o : Options) (items : List Value) (steps : List Value) (separator : String) :
    Except Fault Value := do
  let texts ← items.mapM fun item => do o.textOf (← partOf o item steps)
  pure (.text (separator.intercalate texts))

/-- Items as one text for a page: it is safe if one of the items or the separator is. -/
def joinSafe (o : Options) (items : List Value) (steps : List Value) (separator : Value) :
    Except Fault Value := do
  let parts ← items.mapM (partOf o · steps)
  let texts ← parts.mapM fun v => do
    if isMarkup v then pure v else pure (.text (← o.textOf v))
  if isMarkup separator || texts.any isMarkup then
    let between ← o.safeTextOf separator
    pure (.markup (between.intercalate (← texts.mapM o.safeTextOf)))
  else
    let between ← o.textOf separator
    pure (.text (between.intercalate (texts.map Value.shown)))

/-- Items, or the same part of each of them, as one text. -/
def joinItems (o : Options) (v separator address : Value) : Except Fault Value := do
  let steps := partSteps address
  if !steps.isEmpty || o.autoescape then
    let items ← o.itemsOf v
    if o.autoescape then joinSafe o items steps separator
    else joinPlain o items steps (← o.textOf separator)
  else
    let between ← o.textOf separator
    joinPlain o (← o.itemsOf v) steps between

namespace Filter

/-- How a filter takes its value and its arguments. -/
def signature : Filter → Signature
  | upper => ⟨"do_upper", [], ["s"], 1⟩
  | lower => ⟨"do_lower", [], ["s"], 1⟩
  | fallback => ⟨"do_default", [], ["value", "default_value", "boolean"], 1⟩
  | join => ⟨"sync_do_join", ["eval_ctx"], ["value", "d", "attribute"], 1⟩
  | length => ⟨"len", [], ["value"], 1⟩

/-- Checks the arguments of a filter that takes its value alone. -/
def checkAlone (f : Filter) (g : Given) : Except Fault Unit :=
  if !g.named.isEmpty then .error (.misuse (.noKeywords f.signature.function))
  else if g.positional.length ≠ 1 then
    .error (.misuse (.oneArgument f.signature.function g.positional.length))
  else .ok ()

/-- The value that a filter makes of a value. -/
def apply (o : Options) (f : Filter) (v : Value) (g : Given) : Except Fault Value := do
  let g := { g with positional := v :: g.positional }
  if f = .length then
    f.checkAlone g
    (o.sizeOf v).map fun n => .int n
  else
    let bound ← f.signature.bind g
    let argument (name : String) (absent : Value) : Value := (bound.get? name).getD absent
    match f with
    | upper => mapText o Text.upper v
    | lower => mapText o Text.lower v
    | join => joinItems o v (argument "d" (.text "")) (argument "attribute" .null)
    | _ =>
      let other := argument "default_value" (.text "")
      match v with
      | .undefined _ => pure other
      | v =>
        let alsoFalse ← o.truthOf (argument "boolean" (.bool false))
        pure (if alsoFalse && !v.isTruthy then other else v)

end Filter

def applyTest (name : String) (v : Value) (g : Given) : Except Fault Bool := do
  let s : Signature := ⟨s!"test_{name}", [], ["value"], 1⟩
  discard (s.bind { g with positional := v :: g.positional })
  let isUndefined := match v with
    | .undefined _ => true
    | _ => false
  pure (match name with
    | "defined" => !isUndefined
    | "undefined" => isUndefined
    | _ => Value.sameScalar v .null)

end Transclusion.Template

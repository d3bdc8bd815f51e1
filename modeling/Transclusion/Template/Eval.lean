import Transclusion.Inclusion.Host
import Transclusion.Template.Filters
import Transclusion.Template.Operators

/-! Values of expressions.

An expression has a value once its names do. Operands and arguments get their
values from the left to the right; of a choice only the side that counts gets
one. A value may stand in the place of the expression that it is of, but for the
numbers that are written as words. As a call may run a body of the template, with
directives in it, evaluating an expression is a script. -/
namespace Transclusion.Template

open Inclusion (Script)

/-! ### Constants -/

mutual

/-- The value that a constant stands for. -/
def Constant.value : Constant → Value
  | .null => .null
  | .bool b => .bool b
  | .int n => .int n
  | .float x => .float x
  | .text s => .text s
  | .markup s => .markup s
  | .list items => .list (valuesOf items)
  | .tuple items => .tuple (valuesOf items)
  | .dict entries => .dict (entryValues entries)

def valuesOf : List Constant → List Value
  | [] => []
  | c :: rest => c.value :: valuesOf rest

/-- The keys and values that the constants of entries stand for. -/
def entryValues : List (Constant × Constant) → List (Value × Value)
  | [] => []
  | (k, c) :: rest => (k.value, c.value) :: entryValues rest

end

mutual

/-- A value as a constant, if it and its parts are data that can stand in a template. -/
def constant? : Value → Option Constant
  | .null => some .null
  | .bool b => some (.bool b)
  | .int n => some (.int n)
  | .float x => some (.float x)
  | .text s => some (.text s)
  | .markup s => some (.markup s)
  | .list items => (constants? items).map .list
  | .tuple items => (constants? items).map .tuple
  | .dict entries => (constantEntries? entries).map .dict
  | _ => none

def constants? : List Value → Option (List Constant)
  | [] => some []
  | v :: rest => do
    let c ← constant? v
    pure (c :: (← constants? rest))

/-- The keys and values of entries as constants. -/
def constantEntries? : List (Value × Value) → Option (List (Constant × Constant))
  | [] => some []
  | (k, v) :: rest => do
    let key ← constant? k
    let c ← constant? v
    pure ((key, c) :: (← constantEntries? rest))

end

/-- The value of a constant that is put in the place of an expression; the word for a number without
digits is taken for a name, which nothing binds. -/
def standing (c : Constant) : Except Fault Value :=
  match c.value.word? with
  | some word => .error (.unboundWord word)
  | none => .ok c.value

/-! ### Expressions -/

/-- What an expression sees besides itself. -/
structure Sight where
  nameValue : String → Except Fault Value
  /-- The text of the region that a filter is applied to. -/
  captured : Except Fault Value
  /-- What a conditional expression without an `else` on some line is when its test does not hold. -/
  unmatched : Nat → Except Fault Value
  /-- What calling a value with arguments comes to. -/
  call : Value → Given → Script Value

/-- Ahead of every run nothing else is known. -/
def Sight.nothing : Sight :=
  let unknown := .error (undefinedFault (.other ""))
  ⟨fun _ => unknown, unknown, fun _ => unknown, fun _ _ => .ofExcept unknown⟩

/-- The arguments after one more. -/
def Given.add (o : Options) (function : String) (g : Given) (passing : Passing) (v : Value) :
    Except Fault Given :=
  match passing with
  | .positional => .ok { g with positional := g.positional ++ [v] }
  | .named name => .ok (g.addNamed name v)
  | .spread => match o.itemsOf v with
    | .ok items => .ok { g with positional := g.positional ++ items }
    | .error (.misuse _) => .error (.misuse (.spreadArgument function v.kind))
    | .error fault => .error fault
  | .spreadNamed => match v with
    | .dict entries =>
      let named := entries.filterMap fun (k, w) => k.text?.map (·, w)
      .ok { g with named := g.named ++ named }
    | v => .error (.misuse (.spreadKeywords function v.kind))

/-- Texts put together; for a page they are safe as soon as one of them is. -/
def concatenation (o : Options) (items : List Value) : Except Fault Value := do
  let texts ← items.mapM fun v => do
    if isMarkup v then pure v else pure (.text (← o.textOf v))
  if o.autoescape && texts.any isMarkup then
    pure (.markup (String.join (← texts.mapM o.safeTextOf)))
  else pure (.text (String.join (texts.map Value.shown)))

/-- The mapping of entries, the later of which replace earlier ones. -/
def mappingOf (o : Options) (entries : List (Value × Value)) : Except Fault Value := do
  pure (.dict (← entries.foldlM (fun found (k, v) => do
    o.checkKey k
    pure (Value.insertKey k v found)) []))

/-- The name of a filter as messages about its arguments have it. -/
def filterFunction (name : String) : String := ((filter? name).map fun f => f.signature.function).getD name

def applyFilter (o : Options) (name : String) (v : Value) (g : Given) : Except Fault Value :=
  match filter? name, o.library.filter? name with
  | some f, _ => f.apply o v g
  | none, some f => f o.autoescape v g
  | none, none => .error (.run (.filter name))

/-- Whether a test of a name holds of a value. -/
def testOf (o : Options) (name : String) (v : Value) (g : Given) : Except Fault Bool :=
  if isTest name then applyTest name v g
  else match o.library.test? name with
    | some holds => holds v g
    | none => .error (.run (.test name))

/-- The function whose arguments those of a call are. -/
def callFunction : String := "jinja2.runtime.Context.call"

mutual

def Expr.eval (o : Options) (s : Sight) : Expr → Script Value
  | .name n => .ofExcept (s.nameValue n)
  | .literal c => pure c.value
  | .constant c _ => .ofExcept (standing c)
  | .captured => .ofExcept s.captured
  | .unmatched line => .ofExcept (s.unmatched line)
  | .list items => do pure (.list (← evalAll o s items))
  | .tuple items => do pure (.tuple (← evalAll o s items))
  | .dict entries => do
    let found ← evalEntries o s entries
    .ofExcept (mappingOf o found)
  | .member e name => do
    let v ← e.eval o s
    .ofExcept (memberOf o v name)
  | .element e index => do
    let v ← e.eval o s
    let key ← index.eval o s
    .ofExcept (elementOf o v key)
  | .slice e first last step => do
    let v ← e.eval o s
    let first ← first.eval o s
    let last ← last.eval o s
    let step ← step.eval o s
    .ofExcept (sliceOf v first last step)
  | .call e args => do
    let v ← e.eval o s
    let given ← evalArguments o s callFunction .none args
    s.call v given
  | .negation e => do
    let v ← e.eval o s
    pure (.bool (!(← .ofExcept (o.truthOf v))))
  | .signed isMinus e => do
    let v ← e.eval o s
    .ofExcept (signed isMinus v)
  | .both a b => do
    let v ← a.eval o s
    if ← .ofExcept (o.truthOf v) then b.eval o s else pure v
  | .either a b => do
    let v ← a.eval o s
    if ← .ofExcept (o.truthOf v) then pure v else b.eval o s
  | .compare e others => do
    let v ← e.eval o s
    evalChain o s v others
  | .binary op a b => do
    let v ← a.eval o s
    let w ← b.eval o s
    .ofExcept (op.apply v w)
  | .concat items => do
    let found ← evalAll o s items
    .ofExcept (concatenation o found)
  | .conditional test e otherwise => do
    let v ← test.eval o s
    if ← .ofExcept (o.truthOf v) then e.eval o s else otherwise.eval o s
  | .filter e name args _ => do
    let v ← e.eval o s
    let given ← evalArguments o s (filterFunction name) .none args
    .ofExcept (applyFilter o name v given)
  | .test e name args _ => do
    let v ← e.eval o s
    let given ← evalArguments o s s!"test_{name}" .none args
    pure (.bool (← .ofExcept (testOf o name v given)))

def evalAll (o : Options) (s : Sight) : List Expr → Script (List Value)
  | [] => pure []
  | e :: rest => do
    let v ← e.eval o s
    pure (v :: (← evalAll o s rest))

/-- The values of the entries of a mapping. -/
def evalEntries (o : Options) (s : Sight) : List (Expr × Expr) → Script (List (Value × Value))
  | [] => pure []
  | (key, e) :: rest => do
    let k ← key.eval o s
    let v ← e.eval o s
    pure ((k, v) :: (← evalEntries o s rest))

/-- The values of arguments of a function, after others. -/
def evalArguments (o : Options) (s : Sight) (function : String) (given : Given) :
    List (Passing × Expr) → Script Given
  | [] => pure given
  | (passing, e) :: rest => do
    let v ← e.eval o s
    let given ← .ofExcept (given.add o function passing v)
    evalArguments o s function given rest

/-- Whether a value compares with the next, that with the one after it, and so on. -/
def evalChain (o : Options) (s : Sight) (v : Value) : List (Comparison × Expr) → Script Value
  | [] => pure (.bool true)
  | (c, e) :: rest => do
    let w ← e.eval o s
    if ← .ofExcept (c.apply o v w) then evalChain o s w rest else pure (.bool false)

end

end Transclusion.Template

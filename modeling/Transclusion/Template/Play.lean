import Transclusion.Inclusion.Host
import Transclusion.Template.Eval
import Transclusion.Template.Frames

/-! Running templates.

A template runs over the variables it is given, part by part; every region with
names of its own opens a frame and closes it again. A directive is given all
variables, and over them whatever the slots of bound names hold at that place.
It needs a rendering pass, which the variables must hold a handle of. A macro runs
where it is called, in frames that are those around its definition. There are no
other templates: to continue or to load one is a fault. -/
namespace Transclusion.Template

open Inclusion (Clerk Script)
open Directive (Invocation)

/-- The name of the handle of the rendering pass among the variables. -/
def passName : String := "__sitepartials_pass__"

/-- A template ready to run: its name, its parts, and the invocations of its directives by tag and
markup. -/
structure Compiled where
  name : Option String
  parts : List Part
  invocations : List ((String × String) × Invocation)

/-- What a running template has recourse to: the invocations of directives, and what calling a value
comes to, where values are escaped for a page and where not. -/
structure Recourse where
  invocation : String → List Char → Except Fault Invocation
  call : Bool → Value → Given → Script Value

/-! ### Arguments of macros -/

namespace Routine

/-- The name of a macro as messages quote it. -/
def quotedName (m : Routine) : String := (m.name.map Text.quoted).getD "None"

/-- The first argument that is given by name twice. -/
def repeatedKeyword? : Bindings → Option String
  | [] => none
  | (name, _) :: rest => if (Bindings.get? rest name).isSome then some name else repeatedKeyword? rest

/-- What a macro takes of arguments: what each parameter is given, if anything, and what the body finds
besides. -/
def takes (m : Routine) (g : Given) : Except Fault (List (String × Option Value) × Bindings) := do
  if let some name := repeatedKeyword? g.named then
    .error (.misuse (.repeatedKeyword callFunction name))
  let open_ := m.parameters.drop g.positional.length
  let taken := m.parameters.zip (g.positional.map some) ++ open_.map fun name => (name, g.named.get? name)
  let left : Bindings := g.named.filter fun (name, _) => !open_.contains name
  -- The body of the caller is no argument by name if the macro finds it otherwise.
  let isParameter := if open_.isEmpty then m.parameters.contains callerName else open_.contains callerName
  let handsOver := m.reads callerName && !isParameter
  let left' : Bindings := if handsOver then left.filter fun (name, _) => name ≠ callerName else left
  let caller : Value := match left.get? callerName with
    | some .null | none => .undefined (.other "No caller defined")
    | some v => v
  if !m.finds namedName && !left'.isEmpty then
    if (left'.get? callerName).isSome then .error (.misuse (.macroCaller m.quotedName))
    else
      .error (.misuse (.macroKeyword m.quotedName (Text.quoted ((left'.map Prod.fst).headD ""))))
  if !m.finds restName && m.parameters.length < g.positional.length then
    .error (.misuse (.macroArguments m.quotedName m.parameters.length))
  let extras := (if handsOver then [(callerName, caller)] else []) ++
    (if m.finds namedName then [(namedName, .ofBindings left')] else []) ++
    (if m.finds restName then [(restName, .tuple (g.positional.drop m.parameters.length))] else [])
  -- A parameter for the body of the caller that has been passed over is one value too many.
  if handsOver && m.parameters.contains callerName then
    let size := m.parameters.length + extras.length
    .error (.misuse (.arguments "macro" (size - 1) (size - 1) size))
  pure (taken, extras)

/-- The default of each parameter, if it has one. -/
def defaultOf (m : Routine) : List (Option Expr) :=
  List.replicate (m.parameters.length - m.defaults.length) none ++ m.defaults.map some

end Routine

namespace Compiled

/-- What a template finds under its own name. -/
def reference (c : Compiled) : Value :=
  let name := match c.name with
    | some name => Text.quoted name
    | none => "None"
  .handle ⟨"TemplateReference", "jinja2.runtime", s!"<TemplateReference {name}>"⟩

/-- What a named body finds in place of one that it replaces, as it replaces none. -/
def parentless (block : String) : Value :=
  .undefined (.other s!"there is no parent block called {Text.quoted block}.")

/-- What stands for the value of a conditional expression that has none. -/
def unmatched (c : Compiled) (line : Nat) : Value :=
  let place := match c.name with
    | some name => s!"line {line} in {Text.quoted name}"
    | none => s!"line {line}"
  .undefined (.other
    s!"the inline if-expression on {place} evaluated to false and no else section was defined.")

/-- Arguments as they leave a place. -/
def leaving (env : Env) (g : Given) : Given := ⟨g.positional.map env.close, env.closeAll g.named⟩

/-- What an expression sees at a place; `text` is that of the region before. -/
def sight (r : Recourse) (c : Compiled) (o : Options) (env : Env) (text : String) : Sight where
  nameValue n := .ok (env.valueOf n)
  captured := .ok (o.regionValue text)
  unmatched line := .ok (c.unmatched line)
  call v g := r.call o.autoescape (env.close v) (leaving env g)

/-- The value of an expression at a place. -/
def value (r : Recourse) (c : Compiled) (o : Options) (env : Env) (e : Expr) : Script Value :=
  e.eval o (c.sight r o env "")

/-- The value that an expression makes of a text. -/
def valueOfText (r : Recourse) (c : Compiled) (o : Options) (env : Env) (e : Expr) (text : String) :
    Script Value :=
  e.eval o (c.sight r o env text)

/-- The values of several expressions at a place. -/
def values (r : Recourse) (c : Compiled) (o : Options) (env : Env) (items : List Expr) :
    Script (List Value) :=
  evalAll o (c.sight r o env "") items

def test (r : Recourse) (c : Compiled) (o : Options) (env : Env) (e : Expr) : Script Bool := do
  let v ← c.value r o env e
  .ofExcept (o.truthOf v)

/-- The fault of a value in the place of the rendering pass, which is asked for its scope. -/
def noScope (o : Options) (v : Value) : Fault :=
  match v.attribute? o.library.attributes "scope", v with
  | some scope, _ => match scope.attribute? o.library.attributes "layer", scope with
    | some layer, _ => .misuse (.call layer.kind)
    | none, .undefined absence => undefinedFault absence
    | none, scope => .noMember scope.qualifiedKind "layer"
  | none, .undefined absence => undefinedFault absence
  | none, v => .noMember v.qualifiedKind "scope"

def directive (r : Recourse) (o : Options) (env : Env) (tag : String) (markup : List Char) :
    Script String :=
  let visible := env.visible
  match visible.get? passName with
  | none | some .null => .fail (.run (.noPass tag))
  | some found => do
    let invocation ← .ofExcept (r.invocation tag markup)
    match found with
    | .pass => .call invocation (some visible) .done
    | v => .fail (noScope o v)

/-- The fault of asking for another template, or for one of several. -/
def absentFault? (o : Options) (v : Value) (isChoice isOptional : Bool) : Except Fault (Option Fault) :=
  let noLoader := some (.misuse .noLoader)
  if !isChoice then .ok noLoader
  else match v with
    | .undefined absence => .error (undefinedFault absence)
    | .text _ | .markup _ => .ok noLoader
    | v => do
      if !v.isTruthy then pure (if isOptional then none else some (.run .noTemplates))
      else
        discard (o.itemsOf v)
        pure noLoader

/-- Asks for another template, or for one of several. -/
def load (r : Recourse) (c : Compiled) (o : Options) (env : Env) (e : Expr)
    (isChoice isOptional : Bool) : Script Unit := do
  let v ← c.value r o env e
  match ← .ofExcept (absentFault? o v isChoice isOptional) with
  | some fault => .fail fault
  | none => pure ()

/-- Whether a loop has a round for an item. -/
def holds (r : Recourse) (c : Compiled) (o : Options) (env : Env) (target : Target) (test : Option Expr)
    (item : Value) : Script Bool := do
  match test with
  | none => pure true
  | some e => do
    let bound ← .ofExcept (target.bind o item)
    c.test r o (env.enter (loopTestSymbols env.slotNames target e) bound .region) e

/-- Runs the rounds of a loop one after another, each when its item has been found to have one; `before`
are the items that had one. Tells whether there was a round. -/
def rounds (holds : Value → Script Bool) (body : Env → Script (String × Env)) (enter : Bindings → Env)
    (o : Options) (target : Target) : (before : List Value) → List Value → Script (String × Bool)
  | before, [] => pure ("", !before.isEmpty)
  | before, item :: rest => do
    if ← holds item then
      let ahead := rest.filter fun next => (holds next).result? = some true
      let bound ← .ofExcept (target.bind o item)
      let state := Value.loop (before ++ item :: ahead) before.length
      let (text, _) ← body (enter ((loopName, state) :: bound))
      let (more, hasRounds) ← rounds holds body enter o target (before ++ [item]) rest
      pure (text ++ more, hasRounds)
    else rounds holds body enter o target before rest

mutual

def play (r : Recourse) (c : Compiled) (o : Options) (env : Env) : Part → Script (String × Env)
  | .data text => pure (text, env)
  | .print e => do
    let v ← c.value r o env e
    pure (← .ofExcept (o.printed v), env)
  | .directive tag markup => do pure (← directive r o env tag markup, env)
  | .assign target e => do
    if !target.holders.isEmpty then .fail (.run .attributeTarget)
    let v ← c.value r o env e
    pure ("", env.assign (← .ofExcept (target.bind o v)))
  | .assignRegion target e body => do
    let inner := env.within (regionSymbols env.slotNames body)
    let (text, inner) ← playAll r c o inner body
    if !target.holders.isEmpty then .fail (.run .attributeTarget)
    let v ← c.valueOfText r o inner e text
    pure ("", env.assign (← .ofExcept (target.bind o v)))
  | .choice test body further otherwise => do
    if ← c.test r o env test then playAll r c o env body
    else
      match ← playFirst r c o env further with
      | some result => pure result
      | none => playAll r c o env otherwise
  | .loop target range test isRecursive body otherwise => do
    let v ← c.value r o env range
    let found ← .ofExcept (o.itemsOf v)
    let s := loopSymbols env.slotNames target isRecursive body otherwise
    let enter (bound : Bindings) : Env := env.enter s bound .loop
    let (text, hasRounds) ← rounds (c.holds r o env target test) (fun inner => playAll r c o inner body)
      enter o target [] found
    if hasRounds then pure (text, env)
    else do
      let inner := env.within (regionSymbols env.slotNames otherwise)
      pure ((← playAll r c o inner otherwise).1, env)
  | .scoped targets items body => do
    let vs ← c.values r o env items
    let bound ← .ofExcept (bindTargets o targets vs)
    let inner := env.enter (scopedSymbols env.slotNames targets body) bound .region
    pure ((← playAll r c o inner body).1, env)
  | .escaping e body => do
    let inner := env.within (escapingSymbols env.slotNames e body)
    let v ← c.value r o inner e
    pure ((← playAll r c { o with autoescape := v.isTruthy } inner body).1, env)
  | .filtered e body => do
    let inner := env.within (filteredSymbols env.slotNames e body)
    let (text, inner) ← playAll r c o inner body
    let v ← c.valueOfText r o inner e text
    pure (← .ofExcept (o.textOf v), env)
  | .block name isScoped isRequired _ body =>
    if isRequired then .fail (.run (.requiredBlock name))
    else do
      let inner := (env.around isScoped).enter (blockSymbols body)
        [(selfName, c.reference), (parentName, parentless name)] .block
      pure ((← playAll r c o inner body).1, env)
  | .inherit e _ => do
    c.load r o env e false false
    pure ("", env)
  | .load e isChoice isOptional => do
    c.load r o env e isChoice isOptional
    pure ("", env)
  | .define name line parameters defaults body =>
    let m : Routine := ⟨some name, line, parameters, defaults, body, c.name, o.autoescape⟩
    pure ("", env.assign [(name, .routine m env.frames.length)])
  | .calling e args line parameters defaults body => do
    let m : Routine := ⟨none, line, parameters, defaults, body, c.name, o.autoescape⟩
    let s := c.sight r o env ""
    let v ← e.eval o s
    let given ← evalArguments o s callFunction .none args
    let w ← s.call v (given.addNamed Routine.callerName (.routine m env.frames.length))
    pure (← .ofExcept (o.printed w), env)

def playAll (r : Recourse) (c : Compiled) (o : Options) (env : Env) : List Part → Script (String × Env)
  | [] => pure ("", env)
  | part :: rest => do
    let (text, env) ← play r c o env part
    let (more, env) ← playAll r c o env rest
    pure (text ++ more, env)

/-- Runs the first of the further branches whose test is true. -/
def playFirst (r : Recourse) (c : Compiled) (o : Options) (env : Env) :
    List Part → Script (Option (String × Env))
  | [] => pure none
  | .choice test body _ _ :: rest => do
    if ← c.test r o env test then do pure (some (← playAll r c o env body))
    else playFirst r c o env rest
  | _ :: rest => playFirst r c o env rest

end

/-- Gives values to the parameters that were given none: their defaults, one after another. -/
def fill (value : Env → Expr → Script Value) (env : Env) :
    List ((String × Option Value) × Option Expr) → Script Env
  | [] => pure env
  | ((_, some _), _) :: rest => fill value env rest
  | ((name, none), none) :: rest =>
    let absent := Value.undefined (.other s!"parameter {Text.quoted name} was not provided")
    fill value (env.put name absent) rest
  | ((name, none), some e) :: rest => do
    let v ← value env e
    fill value (env.put name v) rest

/-- Runs the body of a macro with arguments, at a place around it. -/
def playRoutine (r : Recourse) (c : Compiled) (o : Options) (env : Env) (m : Routine) (g : Given) :
    Script String := do
  let (taken, extras) ← .ofExcept (m.takes g)
  let c := { c with name := m.template }
  let o := { o with autoescape := m.autoescape }
  let offered := taken.map (fun (name, v) => (name, v.getD (.undefined (.name name)))) ++ extras
  let inner := env.enter (m.symbols env.slotNames) offered .routine
  let inner ← fill (c.value r o) inner (taken.zip m.defaultOf)
  let (text, _) ← playAll r c o inner m.body
  pure text

/-- What calling a value comes to, where calls nest to the depth at most. -/
def call (o : Options) (c : Compiled) (invocation : String → List Char → Except Fault Invocation) :
    (depth : Nat) → (autoescape : Bool) → Value → Given → Script Value
  | 0, _, _, _ => .fail .nesting
  | depth + 1, autoescape, v, g =>
    match v with
    | .closure m layers variables_ => do
      let r : Recourse := ⟨invocation, call o c invocation depth⟩
      let text ← c.playRoutine r o (.reopened layers variables_) m g
      pure ({ o with autoescape }.regionValue text)
    | .undefined absence => .fail (undefinedFault absence)
    | v => .ofExcept (o.library.call v g)

/-- The invocation of a directive: of the template's own the one that was prepared, of a directive in a
macro of another template what the clerk answers. -/
def invocation (c : Compiled) (clerk : Clerk) (tag : String) (markup : List Char) :
    Except Fault Invocation :=
  match c.invocations.lookup (tag, String.ofList markup) with
  | some invocation => .ok invocation
  | none => clerk.invocation tag markup

def recourse (c : Compiled) (clerk : Clerk) (o : Options) : Recourse :=
  ⟨c.invocation clerk, call o c (c.invocation clerk) o.library.nesting⟩

/-- The place at the start of a template that is given these variables. -/
def start (c : Compiled) (bindings : Bindings) : Env :=
  (Env.ofVariables bindings).enter (templateSymbols c.parts) [(selfName, c.reference)] .template

/-- Runs a template over the variables it is given. -/
def renderWith (o : Options) (clerk : Clerk) (c : Compiled) (bindings : Bindings) : Script String := do
  let (text, _) ← playAll (c.recourse clerk o) c o (c.start bindings) c.parts
  pure text

/-- Runs a template over the variables of the scope. -/
def script (o : Options) (clerk : Clerk) (c : Compiled) : Script String :=
  .look fun scope => c.renderWith o clerk scope.flatten

end Compiled

end Transclusion.Template

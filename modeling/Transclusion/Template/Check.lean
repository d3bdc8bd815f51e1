import Transclusion.Template.Eval
import Transclusion.Template.Slots
import Transclusion.Text.Compatibility

/-! Checks before any run.

A template is checked once its constants are put in their place, where each must
have a printed form. Every filter and every test that is left must exist, except
in a choice, where it need not run. Named bodies have names of their own, a loop
keeps the name of its state for itself, and a template is continued at its top or
not at all. No two parameters of a macro are compatible names. -/
namespace Transclusion.Template

/-- What a check finds: a fault, or nothing. -/
abbrev Checked := Except Fault Unit

def checkName (exists_ lenient : Bool) (fault : NameFault) (line : Nat) : Checked :=
  if exists_ || lenient then .ok () else .error (.nameError fault line)

/-- Checks that a constant has a printed form. -/
def checkPrintable (c : Constant) : Checked :=
  if c.value.isPrintable then .ok () else .error (.digitLimit none)

mutual

/-- Checks the filters and tests of an expression. -/
def Expr.check (o : Options) (lenient : Bool) : Expr → Checked
  | .name _ | .unmatched _ | .captured => .ok ()
  | .literal c | .constant c _ => checkPrintable c
  | .list items | .tuple items | .concat items => checkAll o lenient items
  | .dict entries => checkEntries o lenient entries
  | .member e _ | .negation e | .signed _ e => e.check o lenient
  | .element a b | .both a b | .either a b | .binary _ a b => do
    a.check o lenient
    b.check o lenient
  | .slice e first last step => do
    e.check o lenient
    first.check o lenient
    last.check o lenient
    step.check o lenient
  | .call e args => do
    e.check o lenient
    checkArguments o lenient args
  | .compare e others => do
    e.check o lenient
    checkOthers o lenient others
  | .conditional test e otherwise => do
    e.check o true
    test.check o true
    otherwise.check o true
  | .filter e name args line => do
    checkName (o.hasFilter name) lenient (.filter name) line
    e.check o lenient
    checkArguments o lenient args
  | .test e name args line => do
    checkName (o.hasTest name) lenient (.test name) line
    e.check o lenient
    checkArguments o lenient args

def checkAll (o : Options) (lenient : Bool) : List Expr → Checked
  | [] => .ok ()
  | e :: rest => do
    e.check o lenient
    checkAll o lenient rest

def checkEntries (o : Options) (lenient : Bool) : List (Expr × Expr) → Checked
  | [] => .ok ()
  | (key, e) :: rest => do
    key.check o lenient
    e.check o lenient
    checkEntries o lenient rest

def checkArguments (o : Options) (lenient : Bool) : List (Passing × Expr) → Checked
  | [] => .ok ()
  | (_, e) :: rest => do
    e.check o lenient
    checkArguments o lenient rest

def checkOthers (o : Options) (lenient : Bool) : List (Comparison × Expr) → Checked
  | [] => .ok ()
  | (_, e) :: rest => do
    e.check o lenient
    checkOthers o lenient rest

end

/-- Checks that a parameter which takes the body of a caller has a default, if the body reads it. -/
def checkCaller (parameters : List String) (defaults : List Expr) (body : List Part) (line : Nat) : Checked :=
  match parameters.idxOf? Routine.callerName with
  | some i =>
    if firstUseIn Routine.callerName body = .read && i + defaults.length < parameters.length then
      .error (.nameError .callerParameter line)
    else .ok ()
  | none => .ok ()

/-- How the place of a part is checked. -/
structure Strictness where
  /-- Whether the part is directly in a choice. -/
  lenient : Bool
  /-- Whether it is in the frame of the template itself. -/
  isTop : Bool
  /-- Whether its text counts for nothing, as another template is continued. -/
  isSilent : Bool
  deriving DecidableEq, Repr

namespace Strictness

def inChoice (s : Strictness) : Strictness := { s with lenient := true }

/-- In a region with names of its own. -/
def inRegion (s : Strictness) : Strictness := { s with lenient := false, isTop := false }

end Strictness

mutual

def Part.check (o : Options) (s : Strictness) : Part → Checked
  | .data _ | .directive _ _ | .block _ _ _ _ _ => .ok ()
  | .print e => if s.isSilent then .ok () else e.check o s.lenient
  | .assign _ e | .load e _ _ => e.check o s.lenient
  | .assignRegion _ e body => do
    checkParts o s.inRegion body
    e.check o false
  | .choice test body further otherwise => do
    test.check o true
    checkParts o s.inChoice body
    checkParts o s.inChoice further
    checkParts o s.inChoice otherwise
  | .loop target range test _ body otherwise => do
    match test with
    | some e => e.check o false
    | none => .ok ()
    match target.bindsLoop? <|> bindLoop? body <|> bindLoop? otherwise with
    | some line => .error (.nameError .loopTarget line)
    | none => .ok ()
    range.check o s.lenient
    checkParts o s.inRegion body
    checkParts o s.inRegion otherwise
  | .scoped _ items body => do
    checkAll o s.lenient items
    checkParts o s.inRegion body
  | .escaping e body => do
    e.check o false
    checkParts o s.inRegion body
  | .filtered e body => do
    checkParts o s.inRegion body
    e.check o false
  | .inherit e line =>
    if s.isTop then e.check o s.lenient else .error (.nameError .nestedInheritance line)
  | .define _ line parameters defaults body => do
    checkCaller parameters defaults body line
    checkAll o false defaults
    checkParts o s.inRegion body
  | .calling e args line parameters defaults body => do
    checkCaller parameters defaults body line
    checkAll o false defaults
    checkParts o s.inRegion body
    Expr.check o s.lenient (.call e args)

def checkParts (o : Options) (s : Strictness) : List Part → Checked
  | [] => .ok ()
  | part :: rest => do
    part.check o s
    checkParts o s rest

end

mutual

/-- The parameters of each body in a part that can be called. -/
def Part.heads : Part → List (List String)
  | .define _ _ parameters _ body | .calling _ _ _ parameters _ body => parameters :: headsIn body
  | .choice _ body further otherwise => headsIn body ++ headsIn further ++ headsIn otherwise
  | .loop _ _ _ _ body otherwise => headsIn body ++ headsIn otherwise
  | .assignRegion _ _ body | .scoped _ _ body | .escaping _ body | .filtered _ body
  | .block _ _ _ _ body => headsIn body
  | _ => []

/-- The parameters of each body in several parts. -/
def headsIn : List Part → List (List String)
  | [] => []
  | part :: rest => part.heads ++ headsIn rest

end

/-- A parameter that is compatible with one before it, if there is one. -/
def repeated? (known : List String) : List String → Option String
  | [] => none
  | name :: rest =>
    let key := Text.compatibleName name
    if known.contains key then some name else repeated? (key :: known) rest

/-- Checks that no two parameters of a body share a slot. -/
def checkHeads (parts : List Part) : Checked :=
  match (headsIn parts).findSome? (repeated? []) with
  | some name => .error (.repeatedParameter name)
  | none => .ok ()

/-- Whether a part continues another template. -/
def isInheritance : Part → Bool
  | .inherit _ _ => true
  | _ => false

/-- Checks the parts of a template from the top; what is behind an inheritance is silent. -/
def checkTop (o : Options) (isSilent : Bool) : List Part → Checked
  | [] => .ok ()
  | part :: rest => do
    part.check o ⟨false, true, isSilent⟩
    checkTop o (isSilent || isInheritance part) rest

/-- Checks that no named body has the name of one before it. -/
def checkBlockNames (known : List String) : List (String × Nat × List Part) → Checked
  | [] => .ok ()
  | (name, line, _) :: rest =>
    if known.contains name then .error (.nameError (.duplicateBlock name) line)
    else checkBlockNames (name :: known) rest

/-- Checks a template: the names of its named bodies, its parts from the top, and then the named
bodies. -/
def checkTemplate (o : Options) (parts : List Part) : Checked := do
  let blocks := blocksIn parts
  checkBlockNames [] blocks
  checkTop o false parts
  blocks.forM fun (_, _, body) => checkParts o ⟨false, false, false⟩ body

end Transclusion.Template

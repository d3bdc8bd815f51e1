import Transclusion.Template.Eval

/-! Constants put in their place.

Before any run the value of an expression that has one by itself is put in the
place of the expression, and a printed one becomes the text that it prints. The
expression stays beside its value, as the names in it still count for the slots.
An expression that has no value, or one that no template can hold, stays, with
its own parts folded. In a region whose escaping is settled by the run nothing is
put in place, as what is printed there is not known. -/
namespace Transclusion.Template

/-- The constant that can be put in the place of an expression. -/
def Expr.constant? (o : Options) (e : Expr) : Option Constant :=
  (e.eval o .nothing).result?.bind Template.constant?

/-- A constant in the place of an expression if it has one, or else what is left of it. -/
def foldedOr (o : Options) (e left : Expr) : Expr :=
  match e.constant? o with
  | some c => .constant c e
  | none => left

mutual

/-- An expression with its constants put in their place. -/
def Expr.folded (o : Options) (e : Expr) : Expr :=
  foldedOr o e (match e with
    | .name n => .name n
    | .literal c => .literal c
    | .constant c e => .constant c e
    | .unmatched line => .unmatched line
    | .captured => .captured
    | .list items => .list (foldedAll o items)
    | .tuple items => .tuple (foldedAll o items)
    | .dict entries => .dict (foldedEntries o entries)
    | .member e name => .member (e.folded o) name
    | .element e index => .element (e.folded o) (index.folded o)
    | .slice e first last step =>
      .slice (e.folded o) (first.folded o) (last.folded o) (step.folded o)
    | .call e args => .call (e.folded o) (foldedArguments o args)
    | .negation e => .negation (e.folded o)
    | .signed isMinus e => .signed isMinus (e.folded o)
    | .both a b => .both (a.folded o) (b.folded o)
    | .either a b => .either (a.folded o) (b.folded o)
    | .compare e others => .compare (e.folded o) (foldedOthers o others)
    | .binary op a b => .binary op (a.folded o) (b.folded o)
    | .concat items => .concat (foldedAll o items)
    | .conditional test e otherwise =>
      .conditional (test.folded o) (e.folded o) (otherwise.folded o)
    | .filter e name args line => .filter (e.folded o) name (foldedArguments o args) line
    | .test e name args line => .test (e.folded o) name (foldedArguments o args) line)
termination_by structural e

def foldedAll (o : Options) (es : List Expr) : List Expr :=
  match es with
  | [] => []
  | e :: rest => e.folded o :: foldedAll o rest
termination_by structural es

def foldedEntries (o : Options) (entries : List (Expr × Expr)) : List (Expr × Expr) :=
  match entries with
  | [] => []
  | (key, e) :: rest => (key.folded o, e.folded o) :: foldedEntries o rest
termination_by structural entries

def foldedArguments (o : Options) (args : List (Passing × Expr)) : List (Passing × Expr) :=
  match args with
  | [] => []
  | (passing, e) :: rest => (passing, e.folded o) :: foldedArguments o rest
termination_by structural args

def foldedOthers (o : Options) (others : List (Comparison × Expr)) : List (Comparison × Expr) :=
  match others with
  | [] => []
  | (c, e) :: rest => (c, e.folded o) :: foldedOthers o rest
termination_by structural others

end

/-- A printed expression: the text that it prints, if that is known. -/
def foldedPrint (o : Options) (e : Expr) : Expr :=
  match (e.eval o .nothing).result?.bind fun v => (o.printed v).toOption with
  | some text => .constant (if o.autoescape then .markup text else .text text) e
  | none => e.folded o

/-- How values are used where an expression settles whether they are escaped, if that is known. -/
def Options.escapingBy? (o : Options) (e : Expr) : Option Options :=
  (e.constant? o).map fun c => { o with autoescape := c.value.isTruthy }

mutual

/-- A part with its constants put in their place. -/
def Part.folded (o : Options) (part : Part) : Part :=
  match part with
  | .data text => .data text
  | .print e => .print (foldedPrint o e)
  | .directive tag markup => .directive tag markup
  | .assign target e => .assign target (e.folded o)
  | .assignRegion target e body => .assignRegion target (e.folded o) (foldedParts o body)
  | .choice test body further otherwise =>
    .choice (test.folded o) (foldedParts o body) (foldedParts o further) (foldedParts o otherwise)
  | .loop target range test isRecursive body otherwise =>
    .loop target (range.folded o) (test.map fun e => e.folded o) isRecursive (foldedParts o body)
      (foldedParts o otherwise)
  | .scoped targets items body => .scoped targets (foldedAll o items) (foldedParts o body)
  | .escaping e body =>
    match o.escapingBy? e with
    | some inner => .escaping (e.folded o) (foldedParts inner body)
    | none => .escaping (e.folded o) body
  | .filtered e body => .filtered (e.folded o) (foldedParts o body)
  | .block name isScoped isRequired line body =>
    .block name isScoped isRequired line (foldedParts o body)
  | .inherit e line => .inherit (e.folded o) line
  | .load e isChoice isOptional => .load (e.folded o) isChoice isOptional
  | .define name line parameters defaults body =>
    .define name line parameters (foldedAll o defaults) (foldedParts o body)
  | .calling e args line parameters defaults body =>
    .calling (e.folded o) (foldedArguments o args) line parameters (foldedAll o defaults)
      (foldedParts o body)
termination_by structural part

def foldedParts (o : Options) (parts : List Part) : List Part :=
  match parts with
  | [] => []
  | part :: rest => part.folded o :: foldedParts o rest
termination_by structural parts

end

end Transclusion.Template

import Transclusion.Decimal.Quotient

/-! Syntax of templates.

An expression is built from names, constants and collections by members,
elements, calls, operators, filters and tests. A template is a list of parts:
data, printed expressions, directives, assignments, choices, loops, macros and
regions of some kind. The further branches of a choice are choices themselves. -/
namespace Transclusion.Template

open Decimal (Binary64)

/-- Data that stands in a template. -/
inductive Constant where
  | null
  | bool (b : Bool)
  | int (n : Int)
  | float (x : Binary64)
  | text (s : String)
  /-- A text that is safe on a page as it stands. -/
  | markup (s : String)
  | list (items : List Constant)
  | tuple (items : List Constant)
  | dict (entries : List (Constant × Constant))
  deriving Inhabited, Repr

/-- An operator between two numbers or sequences. -/
inductive Operator where
  | add
  | subtract
  | multiply
  | divide
  | floorDivide
  | remainder
  | power
  deriving DecidableEq, Repr

/-- How two values are compared. -/
inductive Comparison where
  | same
  | differ
  | less
  | atMost
  | greater
  | atLeast
  | inside
  | outside
  deriving DecidableEq, Repr

/-- How an argument is handed over. -/
inductive Passing where
  | positional
  | named (name : String)
  /-- Every item is an argument. -/
  | spread
  /-- Every entry is a named argument. -/
  | spreadNamed
  deriving DecidableEq, Repr

inductive Expr where
  | name (n : String)
  | literal (c : Constant)
  /-- A value put in the place of the expression that it is of. -/
  | constant (c : Constant) (e : Expr)
  | list (items : List Expr)
  | tuple (items : List Expr)
  /-- A mapping: its keys with their values, in order. -/
  | dict (entries : List (Expr × Expr))
  | member (e : Expr) (name : String)
  | element (e index : Expr)
  /-- The part of a sequence between two positions, by steps. -/
  | slice (e first last step : Expr)
  | call (e : Expr) (args : List (Passing × Expr))
  | negation (e : Expr)
  /-- A value with a sign before it. -/
  | signed (isMinus : Bool) (e : Expr)
  | both (a b : Expr)
  | either (a b : Expr)
  /-- A chain of comparisons, each with its right side. -/
  | compare (e : Expr) (others : List (Comparison × Expr))
  | binary (op : Operator) (a b : Expr)
  /-- Texts put together. -/
  | concat (items : List Expr)
  /-- A value for when the test holds, and one for when it does not. -/
  | conditional (test e otherwise : Expr)
  /-- What a conditional expression without an `else` is when its test does not hold. -/
  | unmatched (line : Nat)
  | filter (e : Expr) (name : String) (args : List (Passing × Expr)) (line : Nat)
  | test (e : Expr) (name : String) (args : List (Passing × Expr)) (line : Nat)
  /-- The text of the region that a filter is applied to. -/
  | captured
  deriving Inhabited, Repr

/-- What a value is assigned to. -/
inductive Target where
  | name (n : String) (line : Nat)
  | attribute (name member : String)
  /-- Targets for the items of a value. -/
  | tuple (items : List Target)
  deriving Inhabited, Repr

inductive Part where
  | data (text : String)
  | print (e : Expr)
  | directive (tag : String) (markup : List Char)
  | assign (target : Target) (e : Expr)
  /-- An assignment of the text of a body, made into a value by an expression. -/
  | assignRegion (target : Target) (e : Expr) (body : List Part)
  /-- A test and what it guards, the further branches, and what is left over. -/
  | choice (test : Expr) (body further otherwise : List Part)
  /-- A target, what it runs over, a test on the items, whether the body may run the loop again, the
  body, and what stands in for no rounds. -/
  | loop (target : Target) (range : Expr) (test : Option Expr) (isRecursive : Bool)
    (body otherwise : List Part)
  /-- A body with names of its own. -/
  | scoped (targets : List Target) (items : List Expr) (body : List Part)
  /-- A body in which printed values are escaped if a value is true. -/
  | escaping (e : Expr) (body : List Part)
  /-- A body whose text is printed through a filter. -/
  | filtered (e : Expr) (body : List Part)
  /-- A named body, which sees the names around it if it is scoped. -/
  | block (name : String) (isScoped isRequired : Bool) (line : Nat) (body : List Part)
  /-- The template that this one continues. -/
  | inherit (e : Expr) (line : Nat)
  /-- Another template, or one of several; one that is missing may be optional. -/
  | load (e : Expr) (isChoice isOptional : Bool)
  /-- A body under a name, to be called: its parameters, and the defaults of the last of them. -/
  | define (name : String) (line : Nat) (parameters : List String) (defaults : List Expr)
    (body : List Part)
  /-- A call that hands over a body, to be called in turn. -/
  | calling (e : Expr) (args : List (Passing × Expr)) (line : Nat) (parameters : List String)
    (defaults : List Expr) (body : List Part)
  deriving Inhabited, Repr

/-- What a frame of a running template is opened for. -/
inductive FrameKind where
  | template
  | loop
  /-- A named body. -/
  | block
  /-- The body of a macro. -/
  | routine
  /-- Any other region. -/
  | region
  deriving DecidableEq, Repr, Inhabited

/-- A body that can be called. -/
structure Routine where
  /-- Its name, unless it is the body of a call. -/
  name : Option String
  /-- The line at which it begins. -/
  line : Nat
  parameters : List String
  /-- The defaults of the last of the parameters. -/
  defaults : List Expr
  body : List Part
  /-- The name of the template that it stands in. -/
  template : Option String
  /-- Whether values printed in it are escaped for a page. -/
  autoescape : Bool
  deriving Inhabited, Repr

namespace Routine

/-- Whether two macros are the same one, as far as their places tell. -/
def isSame (m n : Routine) : Bool := m.name == n.name && m.line == n.line && m.template == n.template

end Routine

end Transclusion.Template

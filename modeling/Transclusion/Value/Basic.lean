import Transclusion.Calendar
import Transclusion.Template.Syntax

/-! Values.

What a variable can hold: data as a configuration or front matter gives it,
where tuples are pairs, objects with attributes, and what only a template makes:
tuples of any length, text that is safe on a page, the state of a loop, macros,
methods, handles and the value of a name that nothing binds. A mapping keeps the order in which its keys were first
given; two keys are one if they are the same text, or the same number in whatever
form.

A macro sees the frames that were open where it was defined, as they are when it
is called. In the template that defines it a macro is told by how many frames
these were; where it leaves the template it takes along what they hold. -/
namespace Transclusion

open Decimal (Binary64)
open Template (FrameKind Routine)

/-- What an undefined value stands for. -/
inductive Absence where
  /-- A name that nothing binds. -/
  | name (name : String)
  /-- An attribute that a value of some kind lacks. -/
  | member (holder name : String)
  /-- A position, in its quoted form, that a value of some kind lacks. -/
  | element (holder key : String)
  /-- Something else, in words. -/
  | other (note : String)
  deriving DecidableEq, Repr

/-- Something that a template can name but not take apart. -/
structure Handle where
  kind : String
  /-- The family of the kind, if it has one. -/
  family : String
  /-- The form in running text. -/
  form : String
  deriving DecidableEq, Repr

inductive Value where
  | null
  | bool (b : Bool)
  | int (n : Int)
  | float (x : Binary64)
  | text (s : String)
  /-- A text that is safe on a page as it stands. -/
  | markup (s : String)
  | day (d : Day)
  | moment (m : Moment)
  | list (items : List Value)
  | tuple (items : List Value)
  | dict (entries : List (Value × Value))
  /-- A value with attributes, which is no mapping. -/
  | object (attributes : List (String × Value))
  /-- A running loop: what it runs over, and the round, counted from zero. -/
  | loop (items : List Value) (round : Nat)
  /-- A macro of the template at hand, and the number of frames that it sees. -/
  | routine (m : Routine) (level : Nat)
  /-- A macro that has left its template: what it sees of the frames, the innermost first, and the
  variables. -/
  | closure (m : Routine) (layers : List (FrameKind × List String × List (String × Option Value)))
    (variables_ : List (String × Value))
  /-- A function of a value, by its name. -/
  | method (receiver : Value) (name : String)
  /-- The handle of the rendering pass. -/
  | pass
  | handle (h : Handle)
  | undefined (absence : Absence)
  deriving Inhabited, Repr

/-- Named values, in order. -/
abbrev Bindings := List (String × Value)

/-- What a macro sees of a frame: what it was opened for, the names that are only read there, which have
their values among the variables, and the names that are bound there, with what their slots hold. -/
abbrev Layer := FrameKind × List String × List (String × Option Value)

namespace Bindings

def get? (bindings : Bindings) (name : String) : Option Value := bindings.lookup name

/-- Binds a name: in place if it is bound already, else at the end. -/
def insert (name : String) (value : Value) : Bindings → Bindings
  | [] => [(name, value)]
  | (n, v) :: rest => if n = name then (n, value) :: rest else (n, v) :: insert name value rest

/-- Binds all names of `more`, one after another. -/
def update (bindings more : Bindings) : Bindings :=
  more.foldl (fun b (name, value) => b.insert name value) bindings

/-- Binds a name among bindings that are in the order of their names. -/
def place (name : String) (value : Value) : Bindings → Bindings
  | [] => [(name, value)]
  | (n, v) :: rest =>
    if name = n then (n, value) :: rest
    else if name < n then (name, value) :: (n, v) :: rest
    else (n, v) :: place name value rest

/-- The bindings in the order of their names. -/
def sorted (bindings : Bindings) : Bindings := bindings.foldr (fun (name, value) b => place name value b) []

theorem get?_insert (bindings : Bindings) (name other : String) (value : Value) :
    (bindings.insert name value).get? other =
      if other = name then some value else bindings.get? other := by
  induction bindings with
  | nil =>
    by_cases h : other = name
    · simp [insert, get?, h]
    · simp [insert, get?, List.lookup_cons, h, beq_false_of_ne h]
  | cons entry rest ih =>
    obtain ⟨n, v⟩ := entry
    unfold insert
    by_cases hn : n = name
    · subst hn
      by_cases h : other = n
      · simp [get?, h]
      · simp [get?, List.lookup_cons, h, beq_false_of_ne h]
    · by_cases h : other = n
      · subst h
        simp [get?, hn]
      · simp only [hn, if_false, get?, List.lookup_cons, beq_false_of_ne h]
        exact ih

end Bindings

namespace Value

def ofBindings (bindings : Bindings) : Value :=
  .dict (bindings.map fun (name, value) => (.text name, value))

def texts (items : List String) : Value := .list (items.map .text)

def ofText? : Option String → Value
  | some s => .text s
  | none => .null

/-- The number that a value is, in units of the least positive binary64 number. -/
def magnitude? : Value → Option Int
  | .bool b => some (if b then Decimal.twoTo 1074 else 0)
  | .int n => some (n * Decimal.twoTo 1074)
  | .float x =>
    if x.biased = 2047 then none
    else
      let size : Int := x.significand * Decimal.twoTo x.exponent
      some (if x.isNegative then -size else size)
  | _ => none

def text? : Value → Option String
  | .text s => some s
  | .markup s => some s
  | _ => none

/-- The kind of a value, as messages name it. -/
def kind : Value → String
  | .null => "NoneType"
  | .bool _ => "bool"
  | .int _ => "int"
  | .float _ => "float"
  | .text _ => "str"
  | .markup _ => "Markup"
  | .day _ => "date"
  | .moment _ => "datetime"
  | .list _ => "list"
  | .tuple _ => "tuple"
  | .dict _ => "dict"
  | .object _ => "object"
  | .loop _ _ => "LoopContext"
  | .routine _ _ | .closure _ _ _ => "Macro"
  | .method _ _ => "builtin_function_or_method"
  | .pass => "RenderPass"
  | .handle h => h.kind
  | .undefined _ => "Undefined"

def routine? : Value → Option Routine
  | .routine m _ | .closure m _ _ => some m
  | _ => none

/-- Whether two values that are no containers are equal. -/
def sameScalar (a b : Value) : Bool :=
  match a.magnitude?, b.magnitude? with
  | some m, some n => m == n
  | _, _ =>
    match a, b with
    | .null, .null => true
    -- A float without a magnitude is infinite, or is no number and then equals nothing.
    | .float x, .float y => x == y && x.fraction == 0
    | .day d, .day e => d == e
    | .moment m, .moment n => m.same n
    | .undefined _, .undefined _ => true
    | .pass, .pass => true
    | .loop items i, .loop others j => i == j && items.length == others.length
    | .handle h, .handle k => h == k
    | .method r m, .method s n => m == n && r.kind == s.kind
    | _, _ => match a.text?, b.text? with
      | some s, some t => s == t
      | _, _ => match a.routine?, b.routine? with
        | some m, some n => m.isSame n
        | _, _ => false

/-- Whether two values that are no containers are one: equal, or both no number at all. -/
def sameKey (a b : Value) : Bool :=
  sameScalar a b ||
    match a, b with
    | .float x, .float y => x.isNaN && y.isNaN
    | _, _ => false

def lookupKey (key : Value) : List (Value × Value) → Option Value
  | [] => none
  | (k, v) :: rest => if sameKey k key then some v else lookupKey key rest

/-- Sets the value of a key: in place if the key is there, else at the end. -/
def insertKey (key value : Value) : List (Value × Value) → List (Value × Value)
  | [] => [(key, value)]
  | (k, v) :: rest => if sameKey k key then (k, value) :: rest else (k, v) :: insertKey key value rest

/-- What is undefined in a comparison, if anything is. -/
def absence? (a b : Value) : Option Absence :=
  match a, b with
  | .undefined absence, _ => some absence
  | _, .undefined absence => some absence
  | _, _ => none

/-- Whether two items of containers are one without a further look. -/
def isOne (strict : Bool) (a b : Value) : Bool :=
  sameKey a b && (!strict || (absence? a b).isNone)

mutual

/-- Whether two values are equal: numbers by size, containers by their contents. If undefined values
are taken strictly, comparing one is an error. -/
def equal (strict : Bool) (a b : Value) : Except Absence Bool :=
  match if strict then absence? a b else none with
  | some absence => .error absence
  | none =>
    match a with
    | .list xs => match b with
      | .list ys => if xs.length = ys.length then equalItems strict xs ys else .ok false
      | _ => .ok false
    | .tuple xs => match b with
      | .tuple ys => if xs.length = ys.length then equalItems strict xs ys else .ok false
      | _ => .ok false
    | .dict es => match b with
      | .dict fs => if es.length = fs.length then coveredBy strict fs es else .ok false
      | _ => .ok false
    | .object es => match b with
      | .object fs => if es.length = fs.length then attributesIn strict fs es else .ok false
      | _ => .ok false
    | a => .ok (sameScalar a b)
termination_by structural a

/-- Two lists of the same length, item by item up to the first difference. -/
def equalItems (strict : Bool) (xs ys : List Value) : Except Absence Bool :=
  match xs with
  | [] => .ok true
  | x :: xs =>
    match ys with
    | [] => .ok true
    | y :: ys =>
      if isOne strict x y then equalItems strict xs ys
      else match equal strict x y with
        | .ok true => equalItems strict xs ys
        | other => other
termination_by structural xs

/-- Whether every entry occurs in the mapping. -/
def coveredBy (strict : Bool) (whole entries : List (Value × Value)) : Except Absence Bool :=
  match entries with
  | [] => .ok true
  | (k, v) :: rest =>
    match lookupKey k whole with
    | none => .ok false
    | some w =>
      if isOne strict v w then coveredBy strict whole rest
      else match equal strict v w with
        | .ok true => coveredBy strict whole rest
        | other => other
termination_by structural entries

/-- Whether every attribute occurs in the object. -/
def attributesIn (strict : Bool) (whole attributes : List (String × Value)) : Except Absence Bool :=
  match attributes with
  | [] => .ok true
  | (n, v) :: rest =>
    match whole.lookup n with
    | none => .ok false
    | some w =>
      if isOne strict v w then attributesIn strict whole rest
      else match equal strict v w with
        | .ok true => attributesIn strict whole rest
        | other => other
termination_by structural attributes

end

/-- Whether a value counts as true: numbers but zero, containers and texts but the empty ones. -/
def isTruthy : Value → Bool
  | .null | .undefined _ => false
  | .bool b => b
  | .int n => n != 0
  | .float x => x.significand != 0 || x.biased == 2047
  | .text s | .markup s => s != ""
  | .list items | .tuple items => !items.isEmpty
  | .dict entries => !entries.isEmpty
  | .day _ | .moment _ | .object _ | .loop _ _ | .routine _ _ | .closure _ _ _ | .method _ _ | .pass
  | .handle _ => true

/-- The kind of a value; days and moments with the family that they belong to. -/
def qualifiedKind : Value → String
  | v@(.day _) | v@(.moment _) => s!"datetime.{v.kind}"
  | v => v.kind

/-- How messages name the holder of a missing attribute. -/
def holderName : Value → String
  | .null => "None"
  | .markup _ => "markupsafe.Markup object"
  | .loop _ _ => "jinja2.runtime.LoopContext object"
  | .routine _ _ | .closure _ _ _ => "jinja2.runtime.Macro object"
  | .handle h => if h.family = "" then s!"{h.kind} object" else s!"{h.family}.{h.kind} object"
  | v => s!"{v.qualifiedKind} object"

/-! ### Macros that leave their template -/

section
variable (keep : Nat → List Layer × Bindings)

mutual

/-- A value with its macros taken along: `keep` tells what a macro that sees so many frames takes. -/
def close : Value → Value
  | .routine m level => .closure m (keep level).1 (keep level).2
  | .list items => .list (closeItems items)
  | .tuple items => .tuple (closeItems items)
  | .dict entries => .dict (closeEntries entries)
  | .object attributes => .object (closeAttributes attributes)
  | .loop items round => .loop (closeItems items) round
  | .method receiver name => .method (close receiver) name
  | v => v

def closeItems : List Value → List Value
  | [] => []
  | v :: rest => close v :: closeItems rest

def closeEntries : List (Value × Value) → List (Value × Value)
  | [] => []
  | (k, v) :: rest => (close k, close v) :: closeEntries rest

def closeAttributes : List (String × Value) → List (String × Value)
  | [] => []
  | (n, v) :: rest => (n, close v) :: closeAttributes rest

end

end

end Value

end Transclusion

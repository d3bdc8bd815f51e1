import Transclusion.Fault
import Transclusion.Text.Cut
import Transclusion.Value.Attribute

/-! Layered scopes.

A scope is a stack of layers, each binding names to values. An inner layer
shadows the outer ones, and the base layer is never taken away. A dotted name is
looked up by its head, and from there member by member: entries of mappings,
attributes of anything else. A name bound to nothing is bound, but nothing has no
members. Looking for a member that an undefined value does not have is a fault. -/
namespace Transclusion

/-- A stack of layers, the innermost first, on a base layer. -/
structure Scope where
  inner : List Bindings
  base : Bindings
  deriving Inhabited, Repr

namespace Scope

/-- The scope with a base layer alone. -/
def ofBindings (bindings : Bindings) : Scope := ⟨[], bindings⟩

def layers (s : Scope) : List Bindings := s.inner ++ [s.base]

def outer (s : Scope) : List Bindings := s.layers.tail

def depth (s : Scope) : Nat := s.inner.length + 1

def push (s : Scope) (bindings : Bindings) : Scope := ⟨bindings :: s.inner, s.base⟩

/-- The scope without its innermost layer, unless that is the base layer. -/
def pop? (s : Scope) : Option Scope :=
  match s.inner with
  | [] => none
  | _ :: inner => some ⟨inner, s.base⟩

/-- Takes the innermost layer away. -/
def pop (s : Scope) : Except Fault Scope :=
  match s.pop? with
  | some t => .ok t
  | none => .error .baseLayer

def set (s : Scope) (name : String) (value : Value) : Scope :=
  match s.inner with
  | [] => ⟨[], s.base.insert name value⟩
  | layer :: inner => ⟨layer.insert name value :: inner, s.base⟩

/-- The value of an undotted name, from the innermost layer that binds it. -/
def find? (s : Scope) (name : String) : Option Value := s.layers.findSome? (·.get? name)

def contains (s : Scope) (name : String) : Bool := s.layers.any fun layer => (layer.get? name).isSome

/-- All bindings in one layer, the inner ones over the outer ones. -/
def flatten (s : Scope) : Bindings :=
  s.layers.reverse.foldl Bindings.update []

@[simp] theorem layers_push (s : Scope) (bindings : Bindings) :
    (s.push bindings).layers = bindings :: s.layers := rfl

theorem length_layers (s : Scope) : s.layers.length = s.depth := by simp [layers, depth]

@[simp] theorem pop?_push (s : Scope) (bindings : Bindings) : (s.push bindings).pop? = some s := rfl

theorem pop?_eq_none_iff (s : Scope) : s.pop? = none ↔ s.depth = 1 := by
  obtain ⟨inner, base⟩ := s
  cases inner <;> simp [pop?, depth]

theorem layers_pop? {s t : Scope} (h : s.pop? = some t) : s.layers.tail = t.layers := by
  obtain ⟨inner, base⟩ := s
  cases inner with
  | nil => simp [pop?] at h
  | cons layer inner =>
    simp only [pop?, Option.some.injEq] at h
    subst h
    rfl

/-- Binding a name changes the innermost layer alone. -/
theorem layers_set (s : Scope) (name : String) (value : Value) :
    (s.set name value).layers = (s.layers.headD []).insert name value :: s.layers.tail := by
  obtain ⟨inner, base⟩ := s
  cases inner <;> rfl

@[simp] theorem outer_push (s : Scope) (bindings : Bindings) : (s.push bindings).outer = s.layers := rfl

@[simp] theorem outer_set (s : Scope) (name : String) (value : Value) :
    (s.set name value).outer = s.outer := by simp [outer, layers_set]

/-- A scope is its layers. -/
theorem eq_of_layers {s t : Scope} (h : s.layers = t.layers) : s = t := by
  obtain ⟨inner, base⟩ := s
  obtain ⟨inner', base'⟩ := t
  obtain ⟨rfl, hb⟩ := List.append_inj' h rfl
  cases hb
  rfl

/-- What is left without the innermost layer is a scope of the other layers. -/
theorem pop?_of_outer {s t : Scope} (h : t.outer = s.layers) : t.pop? = some s := by
  obtain ⟨inner, base⟩ := t
  cases inner with
  | nil => simp [outer, layers] at h
  | cons layer inner => exact congrArg some (eq_of_layers h)

theorem contains_eq_isSome_find? (s : Scope) (name : String) :
    s.contains name = (s.find? name).isSome := by
  simp only [contains, find?]
  induction s.layers with
  | nil => rfl
  | cons layer rest ih =>
    simp only [List.any_cons, List.findSome?_cons, ih]
    cases layer.get? name <;> simp

end Scope

/-- The head of a dotted name and the members behind it. A name that ends with its first dot has no
members. -/
def dottedParts (name : List Char) : List Char × List (List Char) :=
  match Text.cutAt? ['.'] name with
  | none => (name, [])
  | some (head, []) => (head, [])
  | some (head, rest) => (head, Text.splitOn '.' rest)

/-- Whether a member is reserved, and so never looked for in an undefined value: its name begins and
ends with two underscores. -/
def isReservedMember (name : List Char) : Bool :=
  ['_', '_'].isPrefixOf name && ['_', '_'].isSuffixOf name

/-- Follows members from a value: `none` if one is missing. -/
def Value.follow (table : Attributes) (value : Value) : List (List Char) → Except Fault (Option Value)
  | [] => .ok (some value)
  | part :: parts =>
    match value with
    | .null => .ok none
    | value => match value.member? table (String.ofList part), value with
      | some member, _ => member.follow table parts
      | none, .undefined absence =>
        if isReservedMember part then .ok none else .error (.run (.undefined absence))
      | none, _ => .ok none

/-- The value of a dotted name; `none` if it or a member on the way is not there. -/
def Scope.get? (s : Scope) (name : String) (table : Attributes := .common) :
    Except Fault (Option Value) :=
  let (head, parts) := dottedParts name.toList
  match s.find? (String.ofList head) with
  | none => .ok none
  | some value => value.follow table parts

end Transclusion

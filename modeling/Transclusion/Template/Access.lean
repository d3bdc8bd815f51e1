import Transclusion.Template.Usage

/-! Parts of values.

A part is taken from a value by a name, by a position or as a slice. What a
value does not have is undefined and remembers who lacks it; taking a part of
something undefined is a fault. -/
namespace Transclusion.Template

def wholeNumber? : Value → Option Int
  | .bool b => some (if b then 1 else 0)
  | .int n => some n
  | _ => none

/-- What a value has under a name; undefined if it has nothing there. The attributes of a mapping come
before its entries. -/
def memberOf (o : Options) (v : Value) (name : String) : Except Fault Value :=
  match v.attribute? o.library.attributes name, v with
  | some w, _ => .ok w
  | none, .undefined absence => .error (undefinedFault absence)
  | none, .dict entries =>
    .ok ((Value.lookupKey (.text name) entries).getD (.undefined (.member v.holderName name)))
  | none, v => .ok (.undefined (.member v.holderName name))

/-- An item at a position; a negative one counts from the end. -/
def itemAt? {α : Type} (items : List α) (position : Int) : Option α :=
  if 0 ≤ position then items[position.toNat]?
  else if (-position).toNat ≤ items.length then items[items.length - (-position).toNat]?
  else none

/-- What a value has at a position or under a key, if anything. -/
def entryAt? (v key : Value) : Option Value :=
  match v with
  | .dict entries => Value.lookupKey key entries
  | .list items | .tuple items => (wholeNumber? key).bind (itemAt? items)
  | .text s => (wholeNumber? key).bind fun n =>
    (itemAt? s.toList n).map fun c => .text (String.singleton c)
  | .markup s => (wholeNumber? key).bind fun n =>
    (itemAt? s.toList n).map fun c => .markup (String.singleton c)
  | _ => none

/-- What a value has at a position or under a key; a text may also name an attribute. -/
def elementOf (o : Options) (v key : Value) : Except Fault Value :=
  match v with
  | .undefined absence => .error (undefinedFault absence)
  | v =>
    let found := (entryAt? v key) <|> (key.text?.bind (v.attribute? o.library.attributes))
    let absence : Absence := match key.text? with
      | some name => .member v.holderName name
      | none => .element v.holderName key.quotedForm
    .ok (found.getD (.undefined absence))

/-- A bound of a slice. -/
def sliceBound? (v : Value) : Except Fault (Option Int) :=
  match v with
  | .null => .ok none
  | v => match wholeNumber? v with
    | some n => .ok (some n)
    | none => .error (.misuse .sliceBound)

/-- The place of a bound among `size` items; a negative one counts from the end. -/
def clamped (size least most n : Int) : Int :=
  let n := if n < 0 then n + size else n
  if n < least then least else if most < n then most else n

/-- The positions of a slice: those from `first` by steps up to `last`, which is not one of them. -/
def slicePositions (size : Nat) (first last : Option Int) (step : Int) : List Nat :=
  let n : Int := size
  let (least, most) : Int × Int := if 0 < step then (0, n) else (-1, n - 1)
  let start := match first with
    | some i => clamped n least most i
    | none => if 0 < step then 0 else n - 1
  let stop := match last with
    | some i => clamped n least most i
    | none => if 0 < step then n else -1
  ((List.range size).map fun (k : Nat) => start + (k : Int) * step).filterMap fun i =>
    if (if 0 < step then i < stop else stop < i) then some i.toNat else none

def slice {α : Type} (items : List α) (first last step : Value) : Except Fault (List α) := do
  let by_ := (← sliceBound? step).getD 1
  if by_ = 0 then .error .sliceStep
  let positions := slicePositions items.length (← sliceBound? first) (← sliceBound? last) by_
  pure (positions.filterMap (items[·]?))

def sliceOf (v first last step : Value) : Except Fault Value :=
  match v with
  | .undefined absence => .error (undefinedFault absence)
  | .list items => (slice items first last step).map .list
  | .tuple items => (slice items first last step).map .tuple
  | .text s => (slice s.toList first last step).map fun cs => .text (String.ofList cs)
  | .markup s => (slice s.toList first last step).map fun cs => .markup (String.ofList cs)
  | .dict _ => .error (.misuse (.key "slice"))
  | v => .error (.misuse (.subscript v.qualifiedKind))

end Transclusion.Template

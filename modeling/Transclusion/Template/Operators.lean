import Transclusion.Template.Access
import Transclusion.Template.Syntax

/-! Operators.

Whole numbers of any size are computed exactly. As soon as one operand has a
fraction both are taken as binary numbers, which a whole number may be too large
for. Quotients that are rounded down go with remainders that have the sign of
the divisor. Texts and lists can be added and repeated; a text put together with
one that is safe on a page becomes safe itself. An undefined operand is a fault,
except that the containers look at it only as an item. -/
namespace Transclusion.Template

open Decimal (Binary64)

/-- What a message calls an operator. -/
def Operator.text : Operator → String
  | add => "+"
  | subtract => "-"
  | multiply => "*"
  | divide => "/"
  | floorDivide => "//"
  | remainder => "%"
  | power => "** or pow()"

def ofReal (x : Float) : Value := .float (.ofFloat x)

def isNumber : Value → Bool
  | .bool _ | .int _ | .float _ => true
  | _ => false

/-- The binary number nearest to a whole one. -/
def nearestReal (n : Int) : Except Fault Float :=
  let x := (Decimal.nearest n.natAbs 0).negatedIf (n < 0)
  if x.isInfinite then .error (.overflow .real) else .ok x.toFloat

/-- The binary number that a number is nearest to. -/
def realNumber (v : Value) : Except Fault Float :=
  match v with
  | .float x => .ok x.toFloat
  | v => nearestReal ((wholeNumber? v).getD 0)

/-- The value of an operation on whole numbers. -/
def computeWhole (op : Operator) (m n : Int) : Except Fault Value :=
  match op with
  | .add => .ok (.int (m + n))
  | .subtract => .ok (.int (m - n))
  | .multiply => .ok (.int (m * n))
  | .divide =>
    if n = 0 then .error (.zeroDivisor .quotient)
    else
      let x := Binary64.ofQuotient m.natAbs n.natAbs
      if x.isInfinite then .error (.overflow .realQuotient)
      else .ok (.float (x.negatedIf (decide (m < 0) != decide (n < 0))))
  | .floorDivide => if n = 0 then .error (.zeroDivisor .floorQuotient) else .ok (.int (Int.fdiv m n))
  | .remainder => if n = 0 then .error (.zeroDivisor .remainder) else .ok (.int (Int.fmod m n))
  | .power =>
    if 0 ≤ n then .ok (.int (Int.pow m n.toNat))
    else if m = 0 then .error (.zeroDivisor .power)
    else do pure (ofReal (Float.pow (← nearestReal m) (← nearestReal n)))

/-- The value of an operation on binary numbers. -/
def computeReal (op : Operator) (x y : Float) : Except Fault Value :=
  let divided := Binary64.floorDivide (.ofFloat x) (.ofFloat y)
  match op with
  | .add => .ok (ofReal (x + y))
  | .subtract => .ok (ofReal (x - y))
  | .multiply => .ok (ofReal (x * y))
  | .divide => if y == 0 then .error (.zeroDivisor .realQuotient) else .ok (ofReal (x / y))
  | .floorDivide => if y == 0 then .error (.zeroDivisor .realFloorQuotient) else .ok (ofReal divided.1)
  | .remainder => if y == 0 then .error (.zeroDivisor .realRemainder) else .ok (ofReal divided.2)
  | .power =>
    if x == 0 && y < 0 then .error (.zeroDivisor .power)
    else
      let z := Float.pow x y
      if z.isInf && x.isFinite && y.isFinite then .error (.overflow .realPower) else .ok (ofReal z)

/-- Two texts put together, if both values are texts. -/
def joinedTexts? (a b : Value) : Option Value :=
  match a, b with
  | .text s, .text t => some (.text (s ++ t))
  | .markup s, .markup t => some (.markup (s ++ t))
  | .markup s, .text t => some (.markup (s ++ escapeText t))
  | .text s, .markup t => some (.markup (escapeText s ++ t))
  | _, _ => none

/-- The kind of a sequence, as messages about what it is put together with name it. -/
def sequenceKind? : Value → Option String
  | .text _ | .markup _ => some "str"
  | .list _ => some "list"
  | .tuple _ => some "tuple"
  | _ => none

/-- The fault of an operator between values that it does not join. -/
def operandFault (op : Operator) (a b : Value) : Fault :=
  .misuse (.operands op.text a.qualifiedKind b.qualifiedKind)

/-- Two sequences of one kind, one behind the other. -/
def joinSequences (a b : Value) : Except Fault Value :=
  match joinedTexts? a b with
  | some v => .ok v
  | none => match a, b with
    | .list xs, .list ys => .ok (.list (xs ++ ys))
    | .tuple xs, .tuple ys => .ok (.tuple (xs ++ ys))
    | a, b => .error (match sequenceKind? a with
      | some kind => .misuse (.concatenation kind b.qualifiedKind)
      | none => operandFault .add a b)

/-- A sequence several times, one behind the other; less than once is nothing. -/
def repeated (a : Value) (times : Int) : Value :=
  let copies {α : Type} (items : List α) := (List.replicate times.toNat items).flatten
  match a with
  | .text s => .text (String.ofList (copies s.toList))
  | .markup s => .markup (String.ofList (copies s.toList))
  | .list items => .list (copies items)
  | .tuple items => .tuple (copies items)
  | v => v

/-- A sequence and a whole number, in any order, multiplied. -/
def repeatSequence (a b : Value) : Except Fault Value :=
  match sequenceKind? a, sequenceKind? b with
  | some _, _ => match wholeNumber? b with
    | some n => .ok (repeated a n)
    | none => .error (.misuse (.repetition b.qualifiedKind))
  | none, some _ => match wholeNumber? a with
    | some n => .ok (repeated b n)
    | none => .error (.misuse (.repetition a.qualifiedKind))
  | none, none => .error (operandFault .multiply a b)

def Operator.apply (op : Operator) (a b : Value) : Except Fault Value :=
  match Value.absence? a b with
  | some absence => .error (undefinedFault absence)
  | none =>
    match wholeNumber? a, wholeNumber? b with
    | some m, some n => computeWhole op m n
    | _, _ =>
      if isNumber a && isNumber b then do
        let x ← realNumber a
        computeReal op x (← realNumber b)
      else match op with
        | .add => joinSequences a b
        | .multiply => repeatSequence a b
        | op => .error (operandFault op a b)

/-- The value of a number with a sign before it. -/
def signed (isMinus : Bool) (v : Value) : Except Fault Value :=
  match v with
  | .undefined absence => .error (undefinedFault absence)
  | .float x => .ok (.float (x.negatedIf isMinus))
  | v => match wholeNumber? v with
    | some n => .ok (.int (if isMinus then -n else n))
    | none => .error (.misuse (.sign (if isMinus then "-" else "+") v.qualifiedKind))

/-- Whether two things in some order stand as a comparison asks. -/
def Comparison.holds (c : Comparison) (order : Ordering) : Bool :=
  match c with
  | .same => order == .eq
  | .differ => order != .eq
  | .less => order == .lt
  | .atMost => order != .gt
  | .greater => order == .gt
  | .atLeast => order != .lt
  | .inside | .outside => false

/-- What a message calls a comparison. -/
def Comparison.text : Comparison → String
  | same => "=="
  | differ => "!="
  | less => "<"
  | atMost => "<="
  | greater => ">"
  | atLeast => ">="
  | inside => "in"
  | outside => "not in"

/-- Whether two numbers stand as a comparison asks; nothing stands so to what is no number at all. -/
def compareNumbers (c : Comparison) (a b : Value) : Bool :=
  match a.magnitude?, b.magnitude? with
  | some m, some n => c.holds (compare m n)
  | _, _ =>
    let real (v : Value) : Float := match v with
      | .float x => x.toFloat
      | _ => 0.0
    let x := real a
    let y := real b
    match c with
    | .less => x < y
    | .atMost => x ≤ y
    | .greater => y < x
    | .atLeast => y ≤ x
    | _ => false

/-- Two moments in the order in which they happen, if there is one between them. -/
def compareMoments (m n : Moment) : Except Fault Ordering :=
  match m.zone, n.zone with
  | some _, some _ => .ok (compare m.instant n.instant)
  | none, none => .ok (compare m.instant n.instant)
  | _, _ => .error (.misuse .zones)

mutual

/-- Whether two values stand as a comparison of order asks. -/
def compareOrder (strict : Bool) (c : Comparison) (a b : Value) : Except Fault Bool :=
  match Value.absence? a b with
  | some absence => .error (undefinedFault absence)
  | none =>
    match a with
    | .list xs => match b with
      | .list ys => compareItems strict c xs ys
      | b => .error (.misuse (.order c.text "list" b.qualifiedKind))
    | .tuple xs => match b with
      | .tuple ys => compareItems strict c xs ys
      | b => .error (.misuse (.order c.text "tuple" b.qualifiedKind))
    | a =>
      if isNumber a && isNumber b then .ok (compareNumbers c a b)
      else match a.text?, b.text? with
        | some s, some t => .ok (c.holds (compare s t))
        | _, _ => match a, b with
          | .day d, .day e => .ok (c.holds (compare d.ordinal e.ordinal))
          | .moment m, .moment n => (compareMoments m n).map c.holds
          | .day _, .moment _ | .moment _, .day _ =>
            .error (.misuse (.days a.qualifiedKind b.qualifiedKind))
          | a, b => .error (.misuse (.order c.text a.qualifiedKind b.qualifiedKind))
termination_by structural a

/-- Whether two lists stand as a comparison asks, by the first items in which they differ. -/
def compareItems (strict : Bool) (c : Comparison) (xs ys : List Value) : Except Fault Bool :=
  match xs with
  | [] => .ok (c.holds (if ys.isEmpty then .eq else .lt))
  | x :: xs =>
    match ys with
    | [] => .ok (c.holds .gt)
    | y :: ys =>
      if Value.isOne strict x y then compareItems strict c xs ys
      else match Value.equal strict x y with
        | .error absence => .error (undefinedFault absence)
        | .ok true => compareItems strict c xs ys
        | .ok false => compareOrder strict c x y
termination_by structural xs

end

/-- Whether a value is among items. -/
def isAmong (o : Options) (v : Value) : List Value → Except Fault Bool
  | [] => .ok false
  | item :: rest => do
    if Value.isOne o.strict item v then pure true
    else if ← o.sameValue item v then pure true
    else isAmong o v rest

/-- Whether a text stands somewhere in another. -/
def occursIn (part : List Char) : List Char → Bool
  | [] => part.isEmpty
  | c :: cs => part.isPrefixOf (c :: cs) || occursIn part cs

/-- Whether a value is among the items of another, or a part of it. -/
def isWithin (o : Options) (v container : Value) : Except Fault Bool :=
  match container with
  | .list items | .tuple items => isAmong o v items
  | .dict entries => (o.checkKey v).map fun _ => (Value.lookupKey v entries).isSome
  | .undefined _ => (o.usable container).map fun _ => false
  | container => match container.text? with
    | some whole => match v.text? with
      | some part => .ok (occursIn part.toList whole.toList)
      | none => .error (.misuse (.textContainer v.qualifiedKind))
    | none => .error (.misuse (.container container.qualifiedKind))

/-- Whether two values stand as a comparison asks. -/
def Comparison.apply (c : Comparison) (o : Options) (a b : Value) : Except Fault Bool :=
  match c with
  | .same => o.sameValue a b
  | .differ => (o.sameValue a b).map (!·)
  | .inside => isWithin o a b
  | .outside => (isWithin o a b).map (!·)
  | c => compareOrder o.strict c a b

end Transclusion.Template

import Transclusion.Fault
import Transclusion.Template.Options

/-! Uses of values.

What a template does with a value of any kind: writes it, asks whether it is
true, goes through its items, counts them. A name that nothing binds has an
undefined value, which is written as nothing, counts as false and has no items;
if undefined values are to be taken strictly, each of these uses is a fault. On
a page, the characters with a meaning of their own are written out, except in a
text that is safe as it stands. -/
namespace Transclusion.Template

def undefinedFault (absence : Absence) : Fault := .run (.undefined absence)

namespace Options

/-- The value, unless it is undefined and that is taken strictly. -/
def usable (o : Options) (v : Value) : Except Fault Value :=
  match v with
  | .undefined absence => if o.strict then .error (undefinedFault absence) else .ok v
  | v => .ok v

def textOf (o : Options) (v : Value) : Except Fault String := do
  let v ← o.usable v
  if v.isPrintable then pure v.shown else .error (.digitLimit none)

/-- Whether a value counts as true. -/
def truthOf (o : Options) (v : Value) : Except Fault Bool := (o.usable v).map Value.isTruthy

/-- The characters of a text, each by itself. -/
def characters (s : String) : List Value := s.toList.map fun c => .text (String.singleton c)

/-- The items that a loop runs over. -/
def itemsOf (o : Options) (v : Value) : Except Fault (List Value) :=
  match v with
  | .list items | .tuple items => .ok items
  | .text s => .ok (characters s)
  | .markup s => .ok (s.toList.map fun c => .markup (String.singleton c))
  | .dict entries => .ok (entries.map Prod.fst)
  | .undefined _ => (o.usable v).map fun _ => []
  | v => .error (.misuse (.iteration v.qualifiedKind))

def sizeOf (o : Options) (v : Value) : Except Fault Nat :=
  match v with
  | .list items | .tuple items | .loop items _ => .ok items.length
  | .text s | .markup s => .ok s.length
  | .dict entries => .ok entries.length
  | .undefined _ => (o.usable v).map fun _ => 0
  | v => .error (.misuse (.length v.qualifiedKind))

def sameValue (o : Options) (a b : Value) : Except Fault Bool :=
  (Value.equal o.strict a b).mapError undefinedFault

end Options

/-- A text with the characters that a page gives a meaning to written out. -/
def escapeText (s : String) : String :=
  String.ofList (s.toList.flatMap fun c =>
    if c = '&' then "&amp;".toList
    else if c = '<' then "&lt;".toList
    else if c = '>' then "&gt;".toList
    else if c = '\'' then "&#39;".toList
    else if c = '"' then "&#34;".toList
    else [c])

namespace Options

/-- A value as a text that is safe on a page. -/
def safeTextOf (o : Options) (v : Value) : Except Fault String :=
  match v with
  | .markup s => .ok s
  | v => (o.textOf v).map escapeText

def printed (o : Options) (v : Value) : Except Fault String :=
  if o.autoescape then o.safeTextOf v else o.textOf v

/-- What a text of the template itself is as a value. -/
def regionValue (o : Options) (s : String) : Value := if o.autoescape then .markup s else .text s

end Options

/-- Whether a value is a text that is safe on a page. -/
def isMarkup : Value → Bool
  | .markup _ => true
  | _ => false

/-- Whether a value may change, so that no mapping can have it as a key. -/
def isMutable : Value → Bool
  | .list _ | .dict _ => true
  | _ => false

/-- Checks that a value can be a key. -/
def Options.checkKey (o : Options) (v : Value) : Except Fault Unit :=
  match v with
  | .tuple items => match items.find? isMutable with
    | some item => .error (.misuse (.key item.kind))
    | none => .ok ()
  | v => if isMutable v then .error (.misuse (.key v.kind)) else (o.usable v).map fun _ => ()

end Transclusion.Template

import Transclusion.Decoding
import Transclusion.Inclusion.Run
import Transclusion.Text.Case
import Transclusion.Value.Attribute

/-! Libraries.

Beside the language itself a template uses what it finds: attributes of values,
functions that values are, further filters and tests, encodings. A library says what
these are. Templates are run with one; the common library knows the attributes of the
common table and a few functions, and no filters, tests or encodings but those that
are known anyway. -/
namespace Transclusion.Template

/-- The values of arguments: those given by position, and those given by name. -/
structure Given where
  positional : List Value
  named : Bindings

namespace Given

def none : Given := ⟨[], []⟩

/-- The arguments after a last one that is given by name. -/
def addNamed (g : Given) (name : String) (v : Value) : Given := { g with named := g.named ++ [(name, v)] }

end Given

/-- What templates find beside the language. -/
class Library where
  attributes : Attributes
  /-- An attribute does not depend on whether the value has left its template. -/
  attributes_close (keep : Nat → List Layer × Bindings) (v : Value) (name : String) :
    attributes (v.close keep) name = (attributes v name).map (Value.close keep)
  /-- What calling a value comes to that is defined and no macro. -/
  call : Value → Given → Except Fault Value
  /-- The further filters: what they make of a value and arguments, where values are escaped for a page
  and where not. -/
  filter? : String → Option (Bool → Value → Given → Except Fault Value)
  /-- The further tests. -/
  test? : String → Option (Value → Given → Except Fault Bool)
  /-- The further encodings of partials. -/
  codecs : Codecs
  /-- The depth to which inclusions and calls nest. -/
  nesting : Nat

namespace Library

/-- What calling a value that is no macro comes to: nothing but a few methods can be called. -/
def commonCall (v : Value) (g : Given) : Except Fault Value :=
  match v, g.positional, g.named with
  | .method (.text s) "upper", [], [] => .ok (.text (String.ofList (Text.upper s.toList)))
  | .method (.text s) "lower", [], [] => .ok (.text (String.ofList (Text.lower s.toList)))
  | .method (.dict entries) "get", [.text key], [] => .ok ((Value.lookupKey (.text key) entries).getD .null)
  | .method (.dict entries) "get", [.text key, v], [] => .ok ((Value.lookupKey (.text key) entries).getD v)
  | v, _, _ => .error (.misuse (.call v.kind))

/-! ### Attributes of values that leave their template -/

section
variable (keep : Nat → List Layer × Bindings)

theorem closeItems_texts (items : List String) :
    Value.closeItems keep (items.map .text) = items.map .text := by
  induction items with
  | nil => rfl
  | cons s rest ih =>
    rw [List.map_cons, Value.closeItems, ih]
    rfl

theorem className_close (v : Value) : (v.close keep).className = v.className := by
  cases v <;> rfl

theorem methods_close (v : Value) : (v.close keep).methods = v.methods := by
  cases v <;> rfl

theorem dayPart?_close (d : Day) (name : String) :
    (Value.dayPart? d name).map (Value.close keep) = Value.dayPart? d name := by
  unfold Value.dayPart?
  split <;> rfl

theorem momentPart?_close (m : Moment) (name : String) :
    (Value.momentPart? m name).map (Value.close keep) = Value.momentPart? m name := by
  unfold Value.momentPart?
  split
  case h_6 => cases m.zone <;> rfl
  case h_7 => exact dayPart?_close keep m.day _
  all_goals rfl

theorem routinePart?_close (m : Routine) (name : String) :
    (Value.routinePart? m name).map (Value.close keep) = Value.routinePart? m name := by
  unfold Value.routinePart?
  split
  · cases m.name <;> rfl
  · rw [Option.map_some, Value.close, closeItems_texts]
  · rfl

/-- The parts of a value are data, which is not changed by leaving. -/
theorem part?_close (v : Value) (name : String) :
    (v.close keep).part? name = (v.part? name).map (Value.close keep) := by
  have hwhole (n : Int) : (Value.wholePart? n name).map (Value.close keep) = Value.wholePart? n name := by
    unfold Value.wholePart?
    split <;> rfl
  cases v with
  | bool b => exact (hwhole _).symm
  | int n => exact (hwhole n).symm
  | float x =>
    show Value.realPart? x name = (Value.realPart? x name).map _
    unfold Value.realPart?
    split <;> rfl
  | day d => exact (dayPart?_close keep d name).symm
  | moment m => exact (momentPart?_close keep m name).symm
  | routine m level => exact (routinePart?_close keep m name).symm
  | closure m layers variables_ => exact (routinePart?_close keep m name).symm
  | _ => rfl

theorem common_close (v : Value) (name : String) :
    Attributes.common (v.close keep) name = (Attributes.common v name).map (Value.close keep) := by
  unfold Attributes.common
  split
  · rw [Option.map_some, Value.classOf, Value.classOf, className_close]
    rfl
  · rw [part?_close, methods_close]
    cases v.part? name with
    | some part => rfl
    | none => split <;> rfl

end

/-- The common library. -/
instance common : Library where
  attributes := .common
  attributes_close := common_close
  call := commonCall
  filter? _ := none
  test? _ := none
  codecs := .none
  nesting := Inclusion.nestingLimit

end Library

end Transclusion.Template

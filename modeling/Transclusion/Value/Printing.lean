import Transclusion.Text.Literal
import Transclusion.Value.Basic

/-! Printed values.

A value has three printed forms. *Shown*, a text stands as it is and everything
else as data; it is what a template writes. *Quoted*, as a value stands inside
a container that is shown, a text is in quotes and a day spells out its parts.
As *notation*, for a reader of data, texts are ASCII literals and the keys of a
mapping are sorted. Whole numbers of more digits than a limit have no printed
form. -/
namespace Transclusion

namespace Absence

/-- What an attempt to use the undefined value reports. -/
def message : Absence → String
  | name n => s!"{Text.quoted n} is undefined"
  | member holder n => s!"{Text.quoted holder} has no attribute {Text.quoted n}"
  | element holder key => s!"{holder} has no element {key}"
  | other note => note

/-- The name by which the undefined value was asked for. -/
def asked : Absence → String
  | name n => n
  | member _ n => n
  | element _ key => key
  | other note => note

end Absence

namespace Value

/-- The parts of a day, as a quoted day spells them. -/
def dayParts (d : Day) : List Nat := [d.year, d.month, d.day]

/-- The parts of a moment; seconds are left out when there are none. -/
def momentParts (m : Moment) : List Nat :=
  dayParts m.day ++ [m.hour, m.minute] ++
    (if m.microsecond = 0 then (if m.second = 0 then [] else [m.second]) else [m.second, m.microsecond])

/-- Numbers between commas. -/
def commaNumbers (parts : List Nat) : String := ", ".intercalate (parts.map toString)

def zoneForm : Option Int → String
  | none => ""
  | some zone =>
    if zone = 0 then ", tzinfo=datetime.timezone.utc"
    else
      let (days, rest) := if zone < 0 then ("days=-1, ", zone + 1440) else ("", zone)
      s!", tzinfo=datetime.timezone(datetime.timedelta({days}seconds={rest * 60}))"

mutual

/-- The form of a value inside a container. -/
def quotedForm : Value → String
  | .null => "None"
  | .bool b => if b then "True" else "False"
  | .int n => toString n
  | .float x => x.text
  | .text s => Text.quoted s
  | .markup s => "Markup(" ++ Text.quoted s ++ ")"
  | .day d => s!"datetime.date({commaNumbers (dayParts d)})"
  | .moment m => s!"datetime.datetime({commaNumbers (momentParts m)}{zoneForm m.zone})"
  | .list items => "[" ++ ", ".intercalate (quotedItems items) ++ "]"
  | .tuple [item] => "(" ++ quotedForm item ++ ",)"
  | .tuple items => "(" ++ ", ".intercalate (quotedItems items) ++ ")"
  | .dict entries => "\x7b" ++ ", ".intercalate (quotedEntries entries) ++ "\x7d"
  | .object attributes => "object(" ++ ", ".intercalate (quotedAttributes attributes) ++ ")"
  | .loop items round => s!"<LoopContext {round + 1}/{items.length}>"
  | .routine m _ | .closure m _ _ => match m.name with
    | some name => s!"<Macro {Text.quoted name}>"
    | none => "<Macro anonymous>"
  | .method receiver name => s!"<built-in method {name} of {receiver.kind} object>"
  | .pass => "RenderPass"
  | .handle h => h.form
  | .undefined _ => "Undefined"

def quotedItems : List Value → List String
  | [] => []
  | v :: rest => quotedForm v :: quotedItems rest

def quotedEntries : List (Value × Value) → List String
  | [] => []
  | (k, v) :: rest => (quotedForm k ++ ": " ++ quotedForm v) :: quotedEntries rest

def quotedAttributes : List (String × Value) → List String
  | [] => []
  | (n, v) :: rest => (n ++ "=" ++ quotedForm v) :: quotedAttributes rest

end

/-- The form of a value in running text. -/
def shown : Value → String
  | .text s | .markup s => s
  | .day d => d.text
  | .moment m => m.textWith " "
  | .undefined _ => ""
  | v => v.quotedForm

/-- The number of decimal digits up to which whole numbers have a printed form. -/
def digitLimit : Nat := 4300

mutual

/-- Whether a value has printed forms: no whole number in it has too many digits. -/
def isPrintable : Value → Bool
  | .int n => decide (n.natAbs < Decimal.tenTo digitLimit)
  | .list items | .tuple items => printableItems items
  | .dict entries => printableEntries entries
  | .object attributes => printableAttributes attributes
  | _ => true

def printableItems : List Value → Bool
  | [] => true
  | v :: rest => isPrintable v && printableItems rest

/-- Whether all keys and values of entries have printed forms. -/
def printableEntries : List (Value × Value) → Bool
  | [] => true
  | (k, v) :: rest => isPrintable k && isPrintable v && printableEntries rest

def printableAttributes : List (String × Value) → Bool
  | [] => true
  | (_, v) :: rest => isPrintable v && printableAttributes rest

end

mutual

/-- The first word in the quoted form of data that stands for a number without digits. -/
def word? : Value → Option String
  | .float x => x.word?
  | .list items | .tuple items => wordIn? items
  | .dict entries => wordInEntries? entries
  | _ => none

/-- The first such word in the forms of items. -/
def wordIn? : List Value → Option String
  | [] => none
  | v :: rest => word? v <|> wordIn? rest

/-- The first such word in the forms of entries. -/
def wordInEntries? : List (Value × Value) → Option String
  | [] => none
  | (k, v) :: rest => word? k <|> word? v <|> wordInEntries? rest

end

/-- The texts of an entry, put between the entries with smaller keys and the others. -/
def insertSorted (key form : String) : List (String × String) → List (String × String)
  | [] => [(key, form)]
  | (k, f) :: rest =>
    if k < key then (k, f) :: insertSorted key form rest else (key, form) :: (k, f) :: rest

def asciiLiteral (s : String) : String := String.ofList (Text.literal .ascii s.toList)

/-- Sorted entries in braces. -/
def braced (entries : List (String × String)) : String :=
  "\x7b" ++ ", ".intercalate (entries.map fun (k, f) => asciiLiteral k ++ ": " ++ f) ++ "\x7d"

mutual

def notationForm : Value → String
  | .null => "null"
  | .bool b => if b then "true" else "false"
  | .int n => toString n
  | .float x => x.text
  | .text s => asciiLiteral s
  | .list items | .tuple items => "[" ++ ", ".intercalate (notationItems items) ++ "]"
  | .dict entries => braced (notationEntries entries)
  | .object attributes => braced [("$obj", braced (notationAttributes attributes))]
  | v => asciiLiteral v.shown

def notationItems : List Value → List String
  | [] => []
  | v :: rest => notationForm v :: notationItems rest

/-- The entries of a mapping, sorted. -/
def notationEntries : List (Value × Value) → List (String × String)
  | [] => []
  | (k, v) :: rest => insertSorted k.shown (notationForm v) (notationEntries rest)

/-- The attributes of an object, sorted. -/
def notationAttributes : List (String × Value) → List (String × String)
  | [] => []
  | (n, v) :: rest => insertSorted n (notationForm v) (notationAttributes rest)

end

end Value

end Transclusion

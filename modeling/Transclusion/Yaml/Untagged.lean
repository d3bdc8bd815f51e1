import Transclusion.Decimal.Quotient
import Transclusion.Text.Case
import Transclusion.Yaml.Node

/-! Values of texts.

A plain text means what it looks like: nothing, a truth value, a number, a day
or a moment; else itself. Integers are written in base two, eight, ten or
sixteen, or as numbers of base sixty between colons, and may hold underscores
between their digits. A number with a point is a binary64 number; its exponent
has a sign. -/
namespace Transclusion.Yaml

open Decimal (Binary64)

/-- The spellings of nothing. -/
def nullTexts : List String := ["", "~", "null", "Null", "NULL"]

def trueTexts : List String := ["yes", "Yes", "YES", "true", "True", "TRUE", "on", "On", "ON"]

def falseTexts : List String := ["no", "No", "NO", "false", "False", "FALSE", "off", "Off", "OFF"]

/-! ### Numbers -/

/-- Whether a number is negative, and the text behind its sign, if it has one. -/
def signed : List Char → Bool × List Char
  | '-' :: cs => (true, cs)
  | '+' :: cs => (false, cs)
  | cs => (false, cs)

/-- The value of a digit of a base up to sixteen. -/
def digitValue (c : Char) : Nat :=
  if c.isDigit then c.toNat - '0'.toNat else c.toLower.toNat - 'a'.toNat + 10

def isBinaryDigit (c : Char) : Bool := c == '0' || c == '1'

def isOctalDigit (c : Char) : Bool := '0' ≤ c && c ≤ '7'

def isHexDigit (c : Char) : Bool := c.isDigit || ('a' ≤ c && c ≤ 'f') || ('A' ≤ c && c ≤ 'F')

/-- Whether a text holds digits of a kind and underscores only. -/
def digitsOnly (isDigit : Char → Bool) (cs : List Char) : Bool := cs.all fun c => isDigit c || c == '_'

def withoutUnderscores (cs : List Char) : List Char := cs.filter (· ≠ '_')

/-- The number of digits of a base; underscores do not count. -/
def number (base : Nat) (cs : List Char) : Nat :=
  (withoutUnderscores cs).foldl (fun n c => n * base + digitValue c) 0

/-- The number behind a mark of its base. Underscores alone are no number. -/
def markedNumber? (base : Nat) (isDigit : Char → Bool) (cs : List Char) : Option (Except Fault Nat) :=
  if cs.isEmpty || !digitsOnly isDigit cs then none
  else if (withoutUnderscores cs).isEmpty then some (.error (.notDigits base ""))
  else some (.ok (number base cs))

/-- Whether a text is a digit of base sixty: one digit, or two below sixty. -/
def isSixtieth : List Char → Bool
  | [a] => a.isDigit
  | [a, b] => '0' ≤ a && a ≤ '5' && b.isDigit
  | _ => false

/-- Whether a text is a digit and then digits and underscores. -/
def isWhole : List Char → Bool
  | c :: cs => c.isDigit && digitsOnly Char.isDigit cs
  | [] => false

/-- The number of decimal digits, unless there are too many of them. -/
def decimalNumber (cs : List Char) : Except Fault Nat :=
  let count := (withoutUnderscores cs).length
  if Value.digitLimit < count then .error (.digitLimit (some count)) else .ok (number 10 cs)

def magnitude? (cs : List Char) : Option (Except Fault Nat) :=
  match cs with
  | '0' :: 'b' :: ds => markedNumber? 2 isBinaryDigit ds
  | '0' :: 'x' :: ds => markedNumber? 16 isHexDigit ds
  | '0' :: ds => if digitsOnly isOctalDigit ds then some (.ok (number 8 ds)) else none
  | cs => match Text.splitOn ':' cs with
    | [] => none
    | whole :: rest =>
      if isWhole whole && rest.all isSixtieth then
        some ((decimalNumber whole).map fun first =>
          rest.foldl (fun n ds => n * 60 + number 10 ds) first)
      else none

def integer? (cs : List Char) : Option (Except Fault Value) :=
  let (isNegative, cs) := signed cs
  (magnitude? cs).map (·.map fun n => .int (if isNegative then -n else n))

/-- The exponent that a text is: nothing, or `e`, a sign and digits. -/
def exponent? : List Char → Option Int
  | [] => some 0
  | e :: sign :: ds =>
    if (e = 'e' ∨ e = 'E') ∧ (sign = '+' ∨ sign = '-') ∧ ds ≠ [] ∧ ds.all Char.isDigit then
      some (if sign = '-' then -(number 10 ds) else number 10 ds)
    else none
  | _ => none

/-- The number nearest to the decimal `whole.fraction`, times a power of ten. -/
def decimal (whole fraction : List Char) (power : Int) : Binary64 :=
  let fraction := withoutUnderscores fraction
  Decimal.nearest (number 10 (whole ++ fraction)) (power - fraction.length)

/-- Adds up places of base sixty, the least first; the worth of a place may be too large for it. -/
def sixtiethsFrom (sum : Float) (worth : Nat) : List Binary64 → Except Fault Float
  | [] => .ok sum
  | x :: rest =>
    let size := Decimal.nearest worth 0
    if size.isInfinite then .error (.overflow .real)
    else sixtiethsFrom (sum + x.toFloat * size.toFloat) (worth * 60) rest

/-- Numbers of base sixty, the greatest place first; only the last may have a fraction. They are added
up from the last. -/
def sixtieths (wholes : List (List Char)) (last fraction : List Char) : Except Fault Binary64 :=
  let numbers := wholes.map (decimal · [] 0) ++ [decimal last fraction 0]
  (sixtiethsFrom 0.0 1 numbers.reverse).map .ofFloat

/-- The size of a number with a point, and whether a sign may stand before it. -/
def realMagnitude? (cs : List Char) : Option (Bool × Except Fault Binary64) :=
  match Text.cutAt? ['.'] cs with
  | none => none
  | some (whole, behind) =>
    let (fraction, exponent) := behind.span fun c => c.isDigit || c == '_'
    match whole with
    | [] =>
      match String.ofList behind with
      -- A sign may stand before infinity, and before no other word.
      | "inf" | "Inf" | "INF" => some (true, .ok ⟨0x7ff0000000000000⟩)
      | "nan" | "NaN" | "NAN" => some (false, .ok ⟨0x7ff8000000000000⟩)
      | _ =>
        if isWhole fraction then (exponent? exponent).map fun e => (false, .ok (decimal [] fraction e))
        else none
    | _ =>
      match (Text.splitOn ':' whole).reverse with
      | [whole] =>
        if isWhole whole then
          (exponent? exponent).map fun e => (true, .ok (decimal whole fraction e))
        else none
      | last :: earlier =>
        let wholes := earlier.reverse
        let areSixtieths := (wholes.drop 1).all isSixtieth && isSixtieth last
        if wholes.head?.all isWhole && areSixtieths && exponent.isEmpty then
          some (true, sixtieths wholes last fraction)
        else none
      | [] => none

/-- The number with a point that a text is. -/
def real? (cs : List Char) : Option (Except Fault Value) :=
  let (isNegative, unsigned) := signed cs
  match realMagnitude? unsigned with
  | some (maySign, x) =>
    if maySign || unsigned.length = cs.length then
      some (x.map fun x => .float (x.negatedIf isNegative))
    else none
  | none => none

/-! ### Days and moments -/

/-- Reads a number of at least `least` and at most `most` digits. -/
def digits? (least most : Nat) (cs : List Char) : Option (Nat × List Char) :=
  let ds := (cs.take most).takeWhile Char.isDigit
  if ds.length < least then none else some (number 10 ds, cs.drop ds.length)

def skip? (c : Char) : List Char → Option (List Char)
  | d :: cs => if c = d then some cs else none
  | [] => none

/-- Year, month and day, with so many digits for a month or a day at least. -/
def dayParts? (least : Nat) (cs : List Char) : Option ((Nat × Nat × Nat) × List Char) := do
  let (year, cs) ← digits? 4 4 cs
  let (month, cs) ← digits? least 2 (← skip? '-' cs)
  let (day, cs) ← digits? least 2 (← skip? '-' cs)
  return ((year, month, day), cs)

/-- Goes behind what stands between a day and a time. -/
def skipSeparator? : List Char → Option (List Char)
  | 'T' :: cs | 't' :: cs => some cs
  | cs =>
    let rest := cs.dropWhile fun c => c == ' ' || c == '\t'
    if rest.length < cs.length then some rest else none

/-- A fraction of a second in microseconds. Further digits are dropped. -/
def microseconds : List Char → Nat × List Char
  | '.' :: cs =>
    let (ds, rest) := cs.span Char.isDigit
    (number 10 ((ds ++ List.replicate 6 '0').take 6), rest)
  | cs => (0, cs)

/-- A zone in minutes, if there is one; nothing may follow it. -/
def zone? (cs : List Char) : Option (Option Int) :=
  if cs = [] then some none
  else match cs.dropWhile fun c => c == ' ' || c == '\t' with
    | ['Z'] => some (some 0)
    | sign :: cs =>
      if sign = '+' ∨ sign = '-' then do
        let (hours, cs) ← digits? 1 2 cs
        let (minutes, cs) ← match cs with
          | ':' :: cs => digits? 2 2 cs
          | cs => some (0, cs)
        if cs = [] then
          let n : Int := hours * 60 + minutes
          some (some (if sign = '-' then -n else n))
        else none
      else none
    | [] => none

/-- A distance that is no zone, in days and seconds. -/
def distanceForm (minutes : Int) : String :=
  let days := minutes.fdiv 1440
  let seconds := minutes.fmod 1440 * 60
  let tail := if seconds = 0 then "" else s!", seconds={seconds}"
  s!"datetime.timedelta(days={days}{tail})"

def calendarDay (parts : Nat × Nat × Nat) : Except Fault Day :=
  (Day.of? parts.1 parts.2.1 parts.2.2).mapError .calendar

def day? (cs : List Char) : Option (Except Fault Value) := do
  let (parts, rest) ← dayParts? 2 cs
  if rest = [] then some ((calendarDay parts).map .day) else none

/-- The moment that a text is. Its zone is less than a day. -/
def moment? (cs : List Char) : Option (Except Fault Value) := do
  let (parts, cs) ← dayParts? 1 cs
  let (hour, cs) ← digits? 1 2 (← skipSeparator? cs)
  let (minute, cs) ← digits? 2 2 (← skip? ':' cs)
  let (second, cs) ← digits? 2 2 (← skip? ':' cs)
  let (micro, cs) := microseconds cs
  let zone ← zone? cs
  some (match zone.filter fun minutes => 1440 ≤ minutes.natAbs with
    | some minutes => .error (.zoneRange (distanceForm minutes))
    | none => (calendarDay parts).bind fun day =>
      ((Moment.of? day hour minute second micro zone).mapError .calendar).map .moment)

/-! ### All of them -/

/-- The mark under which a mapping takes in the entries of others. -/
def mergeMark : List Char := ['<', '<']

/-- The value of a plain text. The two marks are none. -/
def plainValue (cs : List Char) : Except Fault Value :=
  let s := String.ofList cs
  if nullTexts.contains s then .ok .null
  else if trueTexts.contains s then .ok (.bool true)
  else if falseTexts.contains s then .ok (.bool false)
  else if cs = mergeMark ∨ cs = Node.defaultMark then .error .data
  else match real? cs <|> integer? cs <|> day? cs <|> moment? cs with
    | some result => result
    | none => .ok (.text s)

/-! ### What a text is said to be -/

/-- The letter behind a zero that marks digits of a base. -/
def baseMark? (base : Nat) : Option Char := [(2, 'b'), (8, 'o'), (16, 'x')].lookup base

/-- The digits of a base behind their mark; without a mark, all of them. -/
def unmarked (base : Nat) : List Char → List Char
  | '0' :: mark :: ds => if baseMark? base = some mark.toLower then ds else '0' :: mark :: ds
  | ds => ds

/-- The whole number of a base that a text is: digits, with a sign and the mark of the base if it has
them, among blanks. -/
def wholeOf (base : Nat) (cs : List Char) : Except Fault Int :=
  let (isNegative, unsigned) := signed (Text.strip cs)
  let ds := unmarked base unsigned
  if ds.isEmpty || ds.any (fun c => !isHexDigit c || base ≤ digitValue c) then
    .error (.notDigits base (String.ofList cs))
  else do
    let n ← if base = 10 then decimalNumber ds else pure (number base ds)
    pure (if isNegative then -n else n)

/-- The integer that a text is said to be. -/
def taggedInteger (cs : List Char) : Except Fault Value := do
  let (isNegative, ds) := signed (withoutUnderscores cs)
  let n ← match ds with
    | [] => .error .noDigits
    | ['0'] => pure 0
    | '0' :: 'b' :: ds => wholeOf 2 ds
    | '0' :: 'x' :: ds => wholeOf 16 ds
    | '0' :: _ => wholeOf 8 ds
    | ds =>
      let places ← (Text.splitOn ':' ds).mapM (wholeOf 10)
      pure (places.foldl (fun n d => n * 60 + d) 0)
  pure (.int (if isNegative then -n else n))

/-- The truth value that a text is said to be. -/
def taggedTruth (cs : List Char) : Except Fault Value :=
  let word := String.ofList (Text.lower cs)
  if trueTexts.contains word then .ok (.bool true)
  else if falseTexts.contains word then .ok (.bool false)
  else .error (.raised .key [.text word])

/-- The exponent behind the digits of a number, whose sign may be left out. -/
def freeExponent? : List Char → Option Int
  | [] => some 0
  | e :: rest =>
    let (isNegative, ds) := signed rest
    if e ≠ 'e' ∨ ds = [] ∨ !ds.all Char.isDigit then none
    else some (if isNegative then -(number 10 ds) else number 10 ds)

/-- The number that a text in small letters is, with a sign if it has one, among blanks. -/
def realOf (cs : List Char) : Except Fault Binary64 :=
  let (isNegative, unsigned) := signed (Text.strip cs)
  let size? : Option Binary64 := match String.ofList unsigned with
    | "inf" | "infinity" => some ⟨0x7ff0000000000000⟩
    | "nan" => some ⟨0x7ff8000000000000⟩
    | _ =>
      let (whole, rest) := unsigned.span Char.isDigit
      let (fraction, rest) := match rest with
        | '.' :: rest => rest.span Char.isDigit
        | rest => ([], rest)
      if whole.isEmpty && fraction.isEmpty then none
      else (freeExponent? rest).map fun e => decimal whole fraction e
  match size? with
  | some x => .ok (x.negatedIf isNegative)
  | none =>
    let note := s!"could not convert string to float: {Text.quoted (String.ofList cs)}"
    .error (.raised .value [.text note])

/-- The number with or without a point that a text is said to be. -/
def taggedReal (cs : List Char) : Except Fault Value := do
  let cs := Text.lower (withoutUnderscores cs)
  if cs.isEmpty then throw .noDigits
  let (isNegative, unsigned) := signed cs
  let x ← match String.ofList unsigned with
    | ".inf" => pure ⟨0x7ff0000000000000⟩
    | ".nan" => pure ⟨0x7ff8000000000000⟩
    | _ =>
      if unsigned.contains ':' then
        let numbers ← (Text.splitOn ':' unsigned).mapM realOf
        (sixtiethsFrom 0.0 1 numbers.reverse).map Binary64.ofFloat
      else realOf unsigned
  pure (.float (x.negatedIf isNegative))

/-- The day or the moment that a text is said to be. -/
def taggedMoment (cs : List Char) : Except Fault Value :=
  let day? : Option (Except Fault Value) := do
    let (parts, rest) ← dayParts? 1 cs
    if rest = [] then some ((calendarDay parts).map .day) else none
  (day? <|> moment? cs).getD (.error .noMoment)

def Reading.value (reading : Reading) (cs : List Char) : Except Fault Value :=
  match reading with
  | plain => plainValue cs
  | text => .ok (.text (String.ofList cs))
  | null => .ok .null
  | truth => taggedTruth cs
  | integer => taggedInteger cs
  | real => taggedReal cs
  | moment => taggedMoment cs

end Transclusion.Yaml

import Transclusion.Value.Printing

/-! Attributes.

A value has attributes by its kind, whatever it holds: the parts of a number, a
day or a moment, its methods and its class. They are given by a table, as there
are more of them than can be listed here, and a template may be run with a table of
its own. An object has its own attributes before those of its kind, and so has
the state of a loop. -/
namespace Transclusion

/-- What values of a kind have under a name. -/
abbrev Attributes := Value → String → Option Value

namespace Value

def loopAttribute? (items : List Value) (round : Nat) : String → Option Value
  | "index" => some (.int (round + 1))
  | "index0" => some (.int round)
  | "first" => some (.bool (round == 0))
  | "last" => some (.bool (round + 1 == items.length))
  | "length" => some (.int items.length)
  | "revindex" => some (.int (items.length - round))
  | "revindex0" => some (.int (items.length - (round + 1)))
  | "depth" => some (.int 1)
  | "depth0" => some (.int 0)
  | "previtem" =>
    some (if round = 0 then .undefined (.other "there is no previous item")
      else (items[round - 1]?).getD (.undefined (.other "there is no previous item")))
  | "nextitem" => some ((items[round + 1]?).getD (.undefined (.other "there is no next item")))
  | _ => none

/-- The name of the class of a value, with the family that it belongs to. -/
def className : Value → String
  | .markup _ => "markupsafe.Markup"
  | .day _ => "datetime.date"
  | .moment _ => "datetime.datetime"
  | .loop _ _ => "jinja2.runtime.LoopContext"
  | .routine _ _ | .closure _ _ _ => "jinja2.runtime.Macro"
  | .undefined _ => "jinja2.runtime.Undefined"
  | .handle h => if h.family = "" then h.kind else s!"{h.family}.{h.kind}"
  | v => v.kind

def classOf (v : Value) : Value := .handle ⟨"type", "", s!"<class '{v.className}'>"⟩

def textMethods : List String :=
  ["capitalize", "casefold", "center", "count", "encode", "endswith", "expandtabs", "find", "format",
    "format_map", "index", "isalnum", "isalpha", "isascii", "isdecimal", "isdigit", "isidentifier",
    "islower", "isnumeric", "isprintable", "isspace", "istitle", "isupper", "join", "ljust", "lower",
    "lstrip", "maketrans", "partition", "removeprefix", "removesuffix", "replace", "rfind", "rindex",
    "rjust", "rpartition", "rsplit", "rstrip", "split", "splitlines", "startswith", "strip", "swapcase",
    "title", "translate", "upper", "zfill"]

def mappingMethods : List String :=
  ["clear", "copy", "fromkeys", "get", "items", "keys", "pop", "popitem", "setdefault", "update", "values"]

def dayMethods : List String :=
  ["ctime", "fromisocalendar", "fromisoformat", "fromordinal", "fromtimestamp", "isocalendar",
    "isoformat", "isoweekday", "replace", "strftime", "timetuple", "today", "toordinal", "weekday"]

/-- The methods of a value. -/
def methods : Value → List String
  | .bool _ | .int _ =>
    ["as_integer_ratio", "bit_count", "bit_length", "conjugate", "from_bytes", "to_bytes"]
  | .float _ => ["as_integer_ratio", "conjugate", "fromhex", "hex", "is_integer"]
  | .text _ => textMethods
  | .markup _ => textMethods ++ ["escape", "striptags", "unescape"]
  | .day _ => dayMethods
  | .moment _ => dayMethods ++ ["astimezone", "combine", "date", "dst", "now", "strptime", "time", "timestamp",
      "timetz", "tzname", "utcfromtimestamp", "utcnow", "utcoffset", "utctimetuple"]
  | .list _ => ["append", "clear", "copy", "count", "extend", "index", "insert", "pop", "remove", "reverse",
      "sort"]
  | .tuple _ => ["count", "index"]
  | .dict _ => mappingMethods
  | .loop _ _ => ["changed", "cycle"]
  | _ => []

def wholePart? (n : Int) : String → Option Value
  | "real" | "numerator" => some (.int n)
  | "imag" => some (.int 0)
  | "denominator" => some (.int 1)
  | _ => none

def realPart? (x : Decimal.Binary64) : String → Option Value
  | "real" => some (.float x)
  | "imag" => some (.float (.ofFloat 0))
  | _ => none

def dayPart? (d : Day) : String → Option Value
  | "year" => some (.int d.year)
  | "month" => some (.int d.month)
  | "day" => some (.int d.day)
  | _ => none

/-- The zone of a moment, which shows as its distance from universal time. -/
def zoneHandle (zone : Int) : Value :=
  .handle ⟨"timezone", "datetime", if zone = 0 then "UTC" else "UTC" ++ Moment.zoneText zone⟩

def momentPart? (m : Moment) : String → Option Value
  | "hour" => some (.int m.hour)
  | "minute" => some (.int m.minute)
  | "second" => some (.int m.second)
  | "microsecond" => some (.int m.microsecond)
  | "fold" => some (.int 0)
  | "tzinfo" => some ((m.zone.map zoneHandle).getD .null)
  | name => dayPart? m.day name

/-- What is known of a macro. -/
def routinePart? (m : Template.Routine) : String → Option Value
  | "name" => some (ofText? m.name)
  | "arguments" => some (.tuple (m.parameters.map .text))
  | _ => none

/-- A part of a value that is no container. -/
def part? : Value → String → Option Value
  | .bool b, name => wholePart? (if b then 1 else 0) name
  | .int n, name => wholePart? n name
  | .float x, name => realPart? x name
  | .day d, name => dayPart? d name
  | .moment m, name => momentPart? m name
  | .routine m _, name | .closure m _ _, name => routinePart? m name
  | _, _ => none

/-- What a value has under a name, by itself or by a table. -/
def attribute? (table : Attributes) (v : Value) (name : String) : Option Value :=
  match v with
  | .object attributes => (attributes.lookup name).or (table v name)
  | .loop items round => (loopAttribute? items round name).or (table v name)
  | v => table v name

/-- What a value has under a name: an entry of a mapping, or an attribute. -/
def member? (table : Attributes) (v : Value) (name : String) : Option Value :=
  match v with
  | .dict entries => lookupKey (.text name) entries
  | v => v.attribute? table name

end Value

/-- The classes of values, their methods, and the parts of numbers, days, moments and macros. -/
def Attributes.common : Attributes := fun v name =>
  if name = "__class__" then some v.classOf
  else (v.part? name).or (if v.methods.contains name then some (.method v name) else none)

end Transclusion

/-! Misuse of values.

A value of the wrong kind for what is done with it, a number that an operation
is not defined for, or arguments that do not fit the parameters of a filter or of
a macro. A misuse names the kinds that it met, never the values. -/
namespace Transclusion

/-- A value of the wrong kind for what is done with it. -/
inductive Misuse where
  | iteration (kind : String)
  /-- An operator between two values that does not join their kinds. -/
  | operands (operator left right : String)
  /-- A sign before a value that takes none. -/
  | sign (operator kind : String)
  | concatenation (left right : String)
  /-- A sequence repeated by something that is no whole number. -/
  | repetition (kind : String)
  /-- Two values without an order between them. -/
  | order (operator left right : String)
  /-- Two moments of which only one has a zone. -/
  | zones
  | days (left right : String)
  | length (kind : String)
  | path (kind : String)
  /-- Something looked for in a value that holds nothing. -/
  | container (kind : String)
  /-- Something other than a text looked for in a text. -/
  | textContainer (kind : String)
  /-- A key that no mapping can have. -/
  | key (kind : String)
  | call (kind : String)
  | subscript (kind : String)
  | sliceBound
  | unpacking (kind : String)
  /-- More arguments than parameters, by the least and the greatest number of them. -/
  | arguments (function : String) (least most given : Nat)
  | oneArgument (function : String) (given : Nat)
  | noKeywords (function : String)
  | repeatedArgument (function parameter : String)
  | unknownArgument (function keyword : String)
  /-- An argument given by name twice. -/
  | repeatedKeyword (function keyword : String)
  | spreadArgument (function kind : String)
  | spreadKeywords (function kind : String)
  /-- An argument by name that a macro does not take; macros are told by their quoted names. -/
  | macroKeyword (name keyword : String)
  /-- A body handed over to a macro that does not take one. -/
  | macroCaller (name : String)
  /-- More arguments than a macro takes. -/
  | macroArguments (name : String) (most : Nat)
  /-- Another template asked for where there are none. -/
  | noLoader
  deriving DecidableEq, Repr

namespace Misuse

def message : Misuse → String
  | iteration kind => s!"'{kind}' object is not iterable"
  | operands operator left right =>
    s!"unsupported operand type(s) for {operator}: '{left}' and '{right}'"
  | sign operator kind => s!"bad operand type for unary {operator}: '{kind}'"
  | concatenation left right => s!"can only concatenate {left} (not \"{right}\") to {left}"
  | repetition kind => s!"can't multiply sequence by non-int of type '{kind}'"
  | order operator left right =>
    s!"'{operator}' not supported between instances of '{left}' and '{right}'"
  | zones => "can't compare offset-naive and offset-aware datetimes"
  | days left right => s!"can't compare {left} to {right}"
  | length kind => s!"object of type '{kind}' has no len()"
  | path kind => s!"expected str, bytes or os.PathLike object, not {kind}"
  | container kind => s!"argument of type '{kind}' is not iterable"
  | textContainer kind => s!"'in <string>' requires string as left operand, not {kind}"
  | key kind => s!"unhashable type: '{kind}'"
  | call kind => s!"'{kind}' object is not callable"
  | subscript kind => s!"'{kind}' object is not subscriptable"
  | sliceBound => "slice indices must be integers or None or have an __index__ method"
  | unpacking kind => s!"cannot unpack non-iterable {kind} object"
  | arguments function least most given =>
    let range := if least = most then toString most else s!"from {least} to {most}"
    let plural := if least = most ∧ most = 1 then "" else "s"
    let verb := if given = 1 then "was" else "were"
    s!"{function}() takes {range} positional argument{plural} but {given} {verb} given"
  | oneArgument function given => s!"{function}() takes exactly one argument ({given} given)"
  | noKeywords function => s!"{function}() takes no keyword arguments"
  | repeatedArgument function parameter =>
    s!"{function}() got multiple values for argument '{parameter}'"
  | unknownArgument function keyword => s!"{function}() got an unexpected keyword argument '{keyword}'"
  | spreadArgument function kind => s!"{function}() argument after * must be an iterable, not {kind}"
  | spreadKeywords function kind => s!"{function}() argument after ** must be a mapping, not {kind}"
  | repeatedKeyword function keyword =>
    s!"{function}() got multiple values for keyword argument '{keyword}'"
  | macroKeyword name keyword => s!"macro {name} takes no keyword argument {keyword}"
  | macroCaller name =>
    s!"macro {name} was invoked with two values for the special caller argument. This is most likely a bug."
  | macroArguments name most => s!"macro {name} takes not more than {most} argument(s)"
  | noLoader => "no loader for this environment specified"

end Misuse

/-- A division by zero, by the operation. -/
inductive ZeroDivisor where
  | quotient
  | floorQuotient
  | remainder
  | realQuotient
  | realFloorQuotient
  | realRemainder
  | power
  deriving DecidableEq, Repr

namespace ZeroDivisor

def message : ZeroDivisor → String
  | quotient => "division by zero"
  | floorQuotient => "integer division or modulo by zero"
  | remainder => "integer modulo by zero"
  | realQuotient => "float division by zero"
  | realFloorQuotient => "float floor division by zero"
  | realRemainder => "float modulo"
  | power => "0.0 cannot be raised to a negative power"

end ZeroDivisor

/-- A number that is too large for what it is made into. -/
inductive Overflow where
  | real
  | realQuotient
  | realPower
  /-- A code point beyond every machine number. -/
  | codePoint
  deriving DecidableEq, Repr

namespace Overflow

def message : Overflow → String
  | real => "int too large to convert to float"
  | realQuotient => "integer division result too large for a float"
  | realPower => "(34, 'Numerical result out of range')"
  | codePoint => "Python int too large to convert to C int"

end Overflow

end Transclusion

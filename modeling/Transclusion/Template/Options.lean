import Transclusion.Template.Library

/-! How templates are written and run.

The delimiters between which the parts of a template stand, what is dropped of
the blanks around tags, how undefined and printed values are taken, and the
library that is at hand. -/
namespace Transclusion.Template

/-- The marks between which the parts of a template stand. -/
structure Delimiters where
  blockStart : List Char
  blockEnd : List Char
  variableStart : List Char
  variableEnd : List Char
  commentStart : List Char
  commentEnd : List Char
  deriving DecidableEq, Repr

namespace Delimiters

/-- Braces with percent signs, double braces, and braces with number signs. -/
def standard : Delimiters :=
  ⟨['{', '%'], ['%', '}'], ['{', '{'], ['}', '}'], ['{', '#'], ['#', '}']⟩

/-- Whether variables start differently from blocks and from comments. -/
def areDistinct (d : Delimiters) : Bool :=
  d.blockStart != d.variableStart && d.variableStart != d.commentStart

end Delimiters

structure Options where
  delimiters : Delimiters
  /-- Whether printed values are escaped for a page. -/
  autoescape : Bool
  /-- Whether undefined values may not even be printed. -/
  strict : Bool
  /-- Whether a line end at the end of a template counts. -/
  keepLastLineEnd : Bool
  /-- Whether a line end directly behind a block or a comment is dropped. -/
  trimBlocks : Bool
  /-- Whether blanks between the start of a line and a block or a comment are dropped. -/
  stripBlocks : Bool
  /-- What stands for a line end in the data and the literals of a template. -/
  lineEnd : List Char
  /-- What templates find beside the language. -/
  [library : Library]

namespace Options

/-- The options of a site that sets none. -/
def standard : Options := ⟨.standard, false, false, true, false, false, ['\n']⟩

/-- What keeps templates from being read with these options, in words. -/
def complaint? (o : Options) : Option String :=
  if !o.delimiters.areDistinct then
    some "block, variable and comment start strings must be different."
  else if o.lineEnd ∉ [['\n'], ['\r'], ['\r', '\n']] then
    some "newline_sequence set to unknown line ending string."
  else none

end Options

end Transclusion.Template

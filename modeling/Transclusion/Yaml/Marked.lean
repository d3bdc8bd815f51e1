import Transclusion.Text.Blank

/-! Marked text.

The reader of data works on a text whose characters know where they stand: on
which line, in which column, and how far from the beginning. All spellings of a
line end are one character here, the line feed, except for the two separators of
Unicode, which keep their own. -/
namespace Transclusion.Yaml

/-- A character of a text, and where it stands; all counts start from zero. -/
structure Mark where
  char : Char
  index : Nat
  line : Nat
  column : Nat
  deriving DecidableEq, Repr

/-- A text whose characters know where they stand. -/
abbrev Marked := List Mark

/-- The characters that end a line of marked text. -/
def isBreak (c : Char) : Bool := c == '\n' || c == '\u2028' || c == '\u2029'

/-- Space and tab. -/
def isInline (c : Char) : Bool := c == ' ' || c == '\t'

/-- What stands between words: space, tab and line ends. -/
def isGap (c : Char) : Bool := isInline c || isBreak c

/-- The byte order mark, which takes no column. -/
def byteOrderMark : Char := '\ufeff'

def isPermitted (c : Char) : Bool :=
  let n := c.toNat
  n == 9 || n == 0xa || n == 0xd || (0x20 ≤ n && n ≤ 0x7e) || n == 0x85 || (0xa0 ≤ n && n ≤ 0xd7ff) ||
    (0xe000 ≤ n && n ≤ 0xfffd) || 0x10000 ≤ n

/-- Marks a text whose first character stands at a place. -/
def marked (index line column : Nat) : List Char → Marked
  | [] => []
  | '\r' :: '\n' :: rest => ⟨'\n', index, line, column⟩ :: marked (index + 2) (line + 1) 0 rest
  | c :: rest =>
    let c := if c = '\r' ∨ c = '\u0085' then '\n' else c
    ⟨c, index, line, column⟩ ::
      (if isBreak c then marked (index + 1) (line + 1) 0 rest
      else marked (index + 1) line (if c = byteOrderMark then column else column + 1) rest)

/-- Marks a whole text, without a byte order mark in front of it. -/
def markedText : List Char → Marked
  | c :: rest => if c = byteOrderMark then marked 1 0 0 rest else marked 0 0 0 (c :: rest)
  | [] => []

/-- The longest beginning whose marks, each with what follows it, are kept; and the rest. -/
def spanWhile (keep : Mark → Marked → Bool) : Marked → List Char × Marked
  | [] => ([], [])
  | m :: rest =>
    if keep m rest then
      let (cs, after) := spanWhile keep rest
      (m.char :: cs, after)
    else ([], m :: rest)

/-- The longest beginning of characters in a class; and the rest. -/
def spanClass (p : Char → Bool) : Marked → List Char × Marked := spanWhile fun m _ => p m.char

def beginsWith (c : Char) : Marked → Bool
  | [] => false
  | m :: _ => m.char == c

/-- Whether a gap, or the end, comes next. -/
def gapAhead : Marked → Bool
  | [] => true
  | m :: _ => isGap m.char

/-- Whether a text begins with a character three times and a gap behind. -/
def tripleAhead (c : Char) : Marked → Bool
  | a :: b :: d :: rest => a.char == c && b.char == c && d.char == c && gapAhead rest
  | _ => false

/-- Whether a line that begins here begins or ends a document. -/
def documentMarkAhead (text : Marked) : Bool := tripleAhead '-' text || tripleAhead '.' text

/-- What a line end and the ends of the blank lines behind it leave of a folded text: a single line
feed becomes a space. -/
def folded (first : Char) (blankLines : List Char) : List Char :=
  if first ≠ '\n' then first :: blankLines
  else if blankLines = [] then [' ']
  else blankLines

end Transclusion.Yaml

import Transclusion.Text.Cut
import Transclusion.Text.Quoted

/-! String literals of templates.

A literal is read in two steps. Every character beyond ASCII is first written by
its code point, and then the escapes are read: the short ones, octal and
hexadecimal numbers and code points. A backslash before any other character
stands for itself, so what was written by code point behind a backslash stays
written. -/
namespace Transclusion.Template

def asciiChar (c : Char) : List Char :=
  if c.toNat < 0x80 then [c]
  else if c.toNat < 0x100 then '\\' :: 'x' :: Text.hexDigits 2 c.toNat
  else if c.toNat < 0x10000 then '\\' :: 'u' :: Text.hexDigits 4 c.toNat
  else '\\' :: 'U' :: Text.hexDigits 8 c.toNat

/-- A text with characters beyond ASCII written by code point. -/
def asciiText (cs : List Char) : List Char := cs.flatMap asciiChar

/-- The number that a digit stands for, in bases up to sixteen. -/
def digitValue? (c : Char) : Option Nat :=
  if c.isDigit then some (c.toNat - 0x30)
  else if 'a' ≤ c ∧ c ≤ 'f' then some (c.toNat - 0x57)
  else if 'A' ≤ c ∧ c ≤ 'F' then some (c.toNat - 0x37)
  else none

/-- The number of the leading digits of a base, at most `count` of them; how many there are, and the
rest. -/
def leadingNumber (base : Nat) : (count : Nat) → (value read : Nat) → List Char → Nat × Nat × List Char
  | 0, value, read, cs => (value, read, cs)
  | _ + 1, value, read, [] => (value, read, [])
  | count + 1, value, read, c :: cs =>
    match digitValue? c with
    | some d =>
      if d < base then leadingNumber base count (value * base + d) (read + 1) cs
      else (value, read, c :: cs)
    | none => (value, read, c :: cs)

/-- The character that a letter behind a backslash stands for. -/
def shortEscape? (c : Char) : Option Char :=
  [('\\', '\\'), ('\'', '\''), ('"', '"'), ('n', '\n'), ('r', '\r'), ('t', '\t'), ('a', '\x07'),
    ('b', '\x08'), ('f', '\x0c'), ('v', '\x0b')].lookup c

/-- Why an escape cannot be read. -/
def truncated (letter : Char) (digits : Nat) : String :=
  String.ofList (s!"truncated ".toList ++ '\\' :: letter :: List.replicate digits 'X') ++ " escape"

/-- Whether a text starts with a name in braces. -/
def namesCharacter : List Char → Bool
  | '{' :: cs => cs.head? != some '}' && cs.contains '}'
  | _ => false

/-- Reads the escapes of an ASCII text. `fuel` bounds the number of steps; each takes a character. -/
def unescapeWith : (fuel : Nat) → List Char → Except String (List Char)
  | 0, _ => .ok []
  | _ + 1, [] => .ok []
  | fuel + 1, '\\' :: c :: cs =>
    let byNumber (digits : Nat) : Except String (List Char) :=
      let (value, read, rest) := leadingNumber 16 digits 0 0 cs
      if read < digits then .error (truncated c digits)
      else if 0x10ffff < value then .error "illegal Unicode character"
      else (unescapeWith fuel rest).map (Char.ofNat value :: ·)
    match shortEscape? c with
    | some d => (unescapeWith fuel cs).map (d :: ·)
    | none =>
      if c = '\n' then unescapeWith fuel cs
      else if c = 'x' then byNumber 2
      else if c = 'u' then byNumber 4
      else if c = 'U' then byNumber 8
      else if c = 'N' then
        .error (if namesCharacter cs then "unknown Unicode character name"
          else "malformed \\N character escape")
      else if '0' ≤ c ∧ c ≤ '7' then
        let (value, _, rest) := leadingNumber 8 3 0 0 (c :: cs)
        (unescapeWith fuel rest).map (Char.ofNat value :: ·)
      else (unescapeWith fuel cs).map ('\\' :: c :: ·)
  | fuel + 1, c :: cs => (unescapeWith fuel cs).map (c :: ·)

/-- The text of a literal, from what stands between its marks. -/
def literalText (body : List Char) : Except String (List Char) :=
  let ascii := asciiText (Text.unifyLineEnds body)
  unescapeWith ascii.length ascii

/-- The body of a literal up to its closing mark, and what follows the mark. -/
def literalBody? (mark : Char) : List Char → Option (List Char × List Char)
  | [] => none
  | '\\' :: c :: cs => (literalBody? mark cs).map fun (b, rest) => ('\\' :: c :: b, rest)
  | c :: cs =>
    if c = mark then some ([], cs)
    else if c = '\\' then none
    else (literalBody? mark cs).map fun (b, rest) => (c :: b, rest)

end Transclusion.Template

import Transclusion.Decimal.Shortest
import Transclusion.Yaml.Marked

/-! Texts of scalars.

A scalar is written plainly, in single or in double quotes, or as a block of
lines. Plain and quoted texts are folded: a line end among them becomes a space,
and of several the first is dropped. In a block the line ends stay (*literal*),
or those between lines that begin with no blank become spaces (*folded*). -/
namespace Transclusion.Yaml

/-- Why a text cannot be read further. -/
inductive ScanFault where
  | grammar
  /-- A number that numbers no character. -/
  | codePoint
  /-- Such a number that is beyond 31 bits. -/
  | hugeCodePoint
  deriving DecidableEq, Repr

/-! ### Plain texts -/

/-- The marks of collections in brackets and braces. -/
def isFlowMark (c : Char) : Bool := c ∈ [',', '[', ']', '{', '}']

/-- Whether a character belongs to a plain word. A colon ends it before a gap; within brackets, so does
one before their marks, and the marks themselves. -/
def inWord (flow : Bool) (m : Mark) (rest : Marked) : Bool :=
  !(isGap m.char ||
    (m.char == ':' && (gapAhead rest || (flow && rest.head?.any fun n => isFlowMark n.char))) ||
    (flow && (isFlowMark m.char || m.char == '?')))

/-- The ends of blank lines, up to the first character that is neither a space nor a line end; none if
a document begins or ends before it. -/
def blankLines : Marked → Option (List Char) × Marked
  | [] => (some [], [])
  | m :: rest =>
    if m.char = ' ' then blankLines rest
    else if isBreak m.char then
      if documentMarkAhead rest then (none, rest)
      else
        let (breaks, after) := blankLines rest
        (breaks.map (m.char :: ·), after)
    else (some [], m :: rest)

/-- What stands between two plain words. -/
structure Gap where
  text : List Char
  endsLine : Bool
  rest : Marked

/-- Reads what stands behind a plain word. Before a document's beginning or end no text is left. -/
def plainGap (text : Marked) : Gap :=
  let (spaces, rest) := spanClass (· == ' ') text
  match rest with
  | [] => ⟨spaces, false, []⟩
  | m :: after =>
    if isBreak m.char then
      if documentMarkAhead after then ⟨[], true, after⟩
      else match blankLines after with
        | (none, rest) => ⟨[], true, rest⟩
        | (some breaks, rest) => ⟨folded m.char breaks, true, rest⟩
    else ⟨spaces, false, m :: after⟩

/-- A plain text: its characters, whether a line was ended behind it, and what follows. -/
structure Plain where
  text : List Char
  endsLine : Bool
  rest : Marked

/-- Whether a plain text ends at a gap: nothing is left of the gap, a comment follows, or, outside of
brackets, the next line is not indented enough. -/
def endsPlain (flow : Bool) (indent : Nat) (gap : Gap) : Bool :=
  gap.text.isEmpty || match gap.rest with
    | [] => true
    | m :: _ => m.char == '#' || (!flow && m.column < indent)

/-- Reads words and gaps. `fuel` bounds the number of words. -/
def plainText (flow : Bool) (indent : Nat) : (fuel : Nat) → (endsLine : Bool) → Marked → Plain
  | 0, endsLine, text => ⟨[], endsLine, text⟩
  | fuel + 1, endsLine, text =>
    match spanWhile (inWord flow) text with
    | ([], _) => ⟨[], endsLine, text⟩
    | (word, after) =>
      let gap := plainGap after
      if endsPlain flow indent gap then ⟨word, gap.endsLine, gap.rest⟩
      else
        let more := plainText flow indent fuel gap.endsLine gap.rest
        if more.text.isEmpty then ⟨word, more.endsLine, more.rest⟩
        else ⟨word ++ gap.text ++ more.text, more.endsLine, more.rest⟩

/-- Reads a plain text, indented by at least so much on further lines. -/
def plain (flow : Bool) (indent : Nat) (text : Marked) : Plain :=
  plainText flow indent text.length false text

/-! ### Quoted texts -/

/-- The ends of blank lines within quotes. No document begins or ends there. -/
def quotedBreaks (lineBegins : Bool) : Marked → Except ScanFault (List Char × Marked)
  | [] => .ok ([], [])
  | m :: rest =>
    if lineBegins && documentMarkAhead (m :: rest) then .error .grammar
    else if isInline m.char then quotedBreaks false rest
    else if isBreak m.char then
      (quotedBreaks true rest).map fun (breaks, after) => (m.char :: breaks, after)
    else .ok ([], m :: rest)

/-- What a gap within quotes stands for: itself within a line, folded around line ends. -/
def quotedGap (text : Marked) : Except ScanFault (List Char × Marked) :=
  let (blanks, rest) := spanClass isInline text
  match rest with
  | [] => .error .grammar
  | m :: after =>
    if isBreak m.char then
      (quotedBreaks true after).map fun (breaks, rest) => (folded m.char breaks, rest)
    else .ok (blanks, m :: after)

def hexValue? (c : Char) : Option Nat :=
  if '0' ≤ c ∧ c ≤ '9' then some (c.toNat - '0'.toNat)
  else if 'a' ≤ c ∧ c ≤ 'f' then some (c.toNat - 'a'.toNat + 10)
  else if 'A' ≤ c ∧ c ≤ 'F' then some (c.toNat - 'A'.toNat + 10)
  else none

/-- The number of exactly so many hexadecimal digits. -/
def hexNumber? : (count : Nat) → (soFar : Nat) → Marked → Option (Nat × Marked)
  | 0, n, text => some (n, text)
  | _ + 1, _, [] => none
  | count + 1, n, m :: rest => (hexValue? m.char).bind fun d => hexNumber? count (16 * n + d) rest

/-- What a letter behind a backslash stands for. -/
def escaped? (c : Char) : Option Char :=
  [('0', '\x00'), ('a', '\x07'), ('b', '\x08'), ('t', '\t'), ('\t', '\t'), ('n', '\n'), ('v', '\x0b'),
    ('f', '\x0c'), ('r', '\r'), ('e', '\x1b'), (' ', ' '), ('"', '"'), ('\\', '\\'), ('/', '/'),
    ('N', '\u0085'), ('_', '\u00a0'), ('L', '\u2028'), ('P', '\u2029')].lookup c

/-- The number of digits behind a letter that begins a numeric escape. -/
def escapeWidth? (c : Char) : Option Nat := [('x', 2), ('u', 4), ('U', 8)].lookup c

/-- What stands for what follows a backslash. A line end and the blanks around it vanish. -/
def escapedText : Marked → Except ScanFault (List Char × Marked)
  | [] => .error .grammar
  | m :: rest =>
    if isBreak m.char then quotedBreaks true rest
    else match escaped? m.char, escapeWidth? m.char with
      | some c, _ => .ok ([c], rest)
      | none, some width => match hexNumber? width 0 rest with
        | some (n, after) =>
          if n.isValidChar then .ok ([Char.ofNat n], after)
          else .error (if n < Decimal.twoTo 31 then .codePoint else .hugeCodePoint)
        | none => .error .grammar
      | none, none => .error .grammar

/-- Reads a text up to its closing quote. `fuel` bounds the number of its pieces. -/
def quotedText (double : Bool) : (fuel : Nat) → Marked → Except ScanFault (List Char × Marked)
  | 0, _ => .error .grammar
  | _ + 1, [] => .error .grammar
  | fuel + 1, m :: rest =>
    let onward (piece : List Char) (after : Marked) :=
      (quotedText double fuel after).map fun (cs, last) => (piece ++ cs, last)
    if isGap m.char then (quotedGap (m :: rest)).bind fun (gap, after) => onward gap after
    else if double then
      if m.char = '"' then .ok ([], rest)
      else if m.char = '\\' then (escapedText rest).bind fun (piece, after) => onward piece after
      else onward [m.char] rest
    else if m.char = '\'' then
      match rest with
      | n :: after => if n.char = '\'' then onward ['\''] after else .ok ([], rest)
      | [] => .ok ([], [])
    else onward [m.char] rest

def quoted (double : Bool) (text : Marked) : Except ScanFault (List Char × Marked) :=
  quotedText double (text.length + 1) text

/-! ### Blocks -/

/-- Which line ends at the end of a block belong to it. -/
inductive Chomping where
  | strip
  | clip
  | keep
  deriving DecidableEq, Repr

def Chomping.ofChar? : Char → Option Chomping
  | '-' => some .strip
  | '+' => some .keep
  | _ => none

/-- The line that announces a block. -/
structure BlockHeader where
  chomping : Chomping
  /-- How much further than its surroundings the block is indented, if that is said. -/
  increment : Option Nat
  rest : Marked

def increment? : Marked → Except ScanFault (Option Nat × Marked)
  | m :: rest =>
    if m.char = '0' then .error .grammar
    else if m.char.isDigit then .ok (some (m.char.toNat - '0'.toNat), rest)
    else .ok (none, m :: rest)
  | [] => .ok (none, [])

def chomping? : Marked → Option Chomping × Marked
  | m :: rest => match Chomping.ofChar? m.char with
    | some chomping => (some chomping, rest)
    | none => (none, m :: rest)
  | [] => (none, [])

/-- The rest of a line that may hold nothing but a comment. -/
def lineEnd (text : Marked) : Except ScanFault Marked :=
  match (spanClass (· == ' ') text).2 with
  | [] => .ok []
  | m :: rest =>
    if isBreak m.char then .ok rest
    else if m.char = '#' then .ok ((spanClass (fun c => !isBreak c) rest).2.drop 1)
    else .error .grammar

/-- Reads the announcement of a block: sign and digit in either order. -/
def blockHeader (text : Marked) : Except ScanFault BlockHeader := do
  let (early, rest) := chomping? text
  let (increment, rest) ← increment? rest
  let (late, rest) := if early.isNone ∧ increment.isSome then chomping? rest else (none, rest)
  match rest with
  | m :: _ => if m.char ≠ ' ' ∧ !isBreak m.char then throw .grammar
  | [] => pure ()
  let rest ← lineEnd rest
  return ⟨(early.or late).getD .clip, increment, rest⟩

/-- Leading blank lines: their ends, the greatest column after a space among them, and the rest. -/
def blockIndentation (widest : Nat) : Marked → List Char × Nat × Marked
  | [] => ([], widest, [])
  | m :: rest =>
    if m.char = ' ' then blockIndentation (max widest (m.column + 1)) rest
    else if isBreak m.char then
      let (breaks, widest, after) := blockIndentation widest rest
      (m.char :: breaks, widest, after)
    else ([], widest, m :: rest)

/-- The ends of blank lines, and the indentation of the line behind them. -/
def blockBreaks (indent : Nat) : Marked → List Char × Marked
  | [] => ([], [])
  | m :: rest =>
    if m.char = ' ' ∧ m.column < indent then blockBreaks indent rest
    else if isBreak m.char then
      let (breaks, after) := blockBreaks indent rest
      (m.char :: breaks, after)
    else ([], m :: rest)

/-- A block: its lines up to the end of the last, that end, the ends of blank lines behind, the rest. -/
structure Block where
  text : List Char
  lineEnd : List Char
  breaks : List Char
  rest : Marked

/-- Reads the lines of a block behind the ends of blank lines. `fuel` bounds their number. -/
def blockLines (fold : Bool) (indent : Nat) : (fuel : Nat) → (breaks : List Char) → Marked → Block
  | 0, breaks, text => ⟨[], [], breaks, text⟩
  | _ + 1, breaks, [] => ⟨[], [], breaks, []⟩
  | fuel + 1, breaks, m :: rest =>
    if m.column ≠ indent then ⟨[], [], breaks, m :: rest⟩
    else match spanClass (fun c => !isBreak c) (m :: rest) with
      | (line, []) => ⟨breaks ++ line, [], [], []⟩
      | (line, b :: after) => match blockBreaks indent after with
        | (next, n :: more) =>
          if n.column = indent then
            let joint :=
              if fold ∧ b.char = '\n' ∧ !isInline m.char ∧ !isInline n.char then
                (if next = [] then [' '] else [])
              else [b.char]
            let tail := blockLines fold indent fuel next (n :: more)
            { tail with text := breaks ++ line ++ joint ++ tail.text }
          else ⟨breaks ++ line, [b.char], next, n :: more⟩
        | (next, []) => ⟨breaks ++ line, [b.char], next, []⟩

/-- Reads a block behind the mark that announces it, among surroundings that are indented by `indent`. -/
def block (fold : Bool) (indent : Nat) (text : Marked) : Except ScanFault (List Char × Marked) := do
  let header ← blockHeader text
  let least := max 1 indent
  let (indent, breaks, rest) := match header.increment with
    | some increment =>
      let indent := least + increment - 1
      (indent, blockBreaks indent header.rest)
    | none =>
      let (breaks, widest, rest) := blockIndentation 0 header.rest
      (max least widest, breaks, rest)
  let b := blockLines fold indent (rest.length + 1) breaks rest
  let lineEnd := if header.chomping = .strip then [] else b.lineEnd
  let breaks := if header.chomping = .keep then b.breaks else []
  return (b.text ++ lineEnd ++ breaks, b.rest)

end Transclusion.Yaml

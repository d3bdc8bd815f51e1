import Transclusion.Decimal.Shortest
import Transclusion.Template.Fault
import Transclusion.Template.Literal
import Transclusion.Template.Rewrite
import Transclusion.Text.Identifier

/-! Tokens of templates.

A template's text is data up to the first tag. Within a tag there are names,
literals and symbols, and its closing mark counts only outside of brackets. A
hyphen at a mark takes away the blanks on the outer side of it; the options say
what else is dropped around blocks and comments, unless a plus sign keeps it.
Comments leave no token, and raw regions leave their text as data. When the text
cannot be read further, the last token says so; it is reported only by whoever
gets that far. Every token knows its line. -/
namespace Transclusion.Template

open Decimal (Binary64)

/-- Why a text cannot be read further. -/
inductive LexicalFault where
  | grammar (fault : SyntaxFault)
  /-- A whole number of this many digits, too many. -/
  | digits (count : Nat)
  /-- A number with a fraction or an exponent in other digits than ASCII ones. -/
  | numeral (first : Char)
  deriving DecidableEq, Repr

inductive TokenKind where
  | data (text : List Char)
  | blockBegin
  | blockEnd
  | variableBegin
  | variableEnd
  | name (s : String)
  | string (s : String)
  | integer (n : Nat)
  | float (x : Binary64)
  | symbol (s : String)
  | finish
  | broken (fault : LexicalFault)
  deriving DecidableEq, Repr

structure Token where
  line : Nat
  kind : TokenKind
  deriving DecidableEq, Repr

/-- Symbols of two characters and symbols of one. -/
def symbols : List (List Char) :=
  ["//", "**", "==", "!=", ">=", "<=", "+", "-", "/", "*", "%", "~", "[", "]", "(", ")", "\x7b", "\x7d",
    ">", "<", "=", ".", ":", "|", ",", ";"].map String.toList

/-- What a cursor stands in. -/
inductive Mode where
  /-- Data, at the start of a line or not. -/
  | data (startsLine : Bool)
  | block
  | variable_
  deriving DecidableEq, Repr

/-- A place in the text: what it stands in, the brackets that are open, the line and the rest. -/
structure Cursor where
  mode : Mode
  /-- The closing brackets awaited, the innermost first. -/
  brackets : List Char
  line : Nat
  rest : List Char
  deriving DecidableEq, Repr

/-- One step of a cursor: tokens and a further place, or the last tokens. -/
inductive Move where
  | go (tokens : List Token) (next : Cursor)
  | halt (tokens : List Token)

/-- The place behind a closing that has been taken. -/
def Cursor.behind (line : Nat) (taken rest : List Char) : Cursor :=
  ⟨.data (taken.getLast? == some '\n'), [], line + Text.lineFeeds taken, rest⟩

/-- A mark behind an optional sign, and the sign. -/
def openMark? (mark cs : List Char) : Option (List Char × List Char × List Char) := do
  let (taken, cs) ← mark? mark cs
  let (sign, cs) := cutSign cs
  some (taken ++ sign, sign, cs)

/-- Which closings of a tag there are besides the mark alone and the mark behind a hyphen. -/
structure Closing where
  /-- The mark behind a plus sign. -/
  plus : Bool
  /-- The mark with a line end behind it. -/
  lineEnd : Bool

/-- A closing mark: with a plus sign, with a hyphen and the blanks behind it, or alone and perhaps with
a line end. -/
def closeMark? (form : Closing) (mark cs : List Char) : Taken :=
  let alone : Taken := do
    let (taken, rest) ← mark? mark cs
    match rest with
    | '\n' :: more => if form.lineEnd then some (taken ++ ['\n'], more) else some (taken, rest)
    | _ => some (taken, rest)
  match cs with
  | c :: rest =>
    -- A hyphen takes the blanks behind the mark; behind a plus sign even a line end stays.
    if c = '-' ∧ mark.isPrefixOf rest then
      let rest := rest.drop mark.length
      some ('-' :: mark ++ rest.takeWhile Text.isBlank, rest.dropWhile Text.isBlank)
    else if form.plus ∧ c = '+' ∧ mark.isPrefixOf rest then some (c :: mark, rest.drop mark.length)
    else alone
  | [] => alone

/-- A block that holds one word alone: its sign, its text and the rest. -/
def wordTag? (o : Options) (form : Closing) (word : String) (cs : List Char) :
    Option (List Char × List Char × List Char) := do
  let (taken, sign, cs) ← openMark? o.delimiters.blockStart cs
  let blanks := cs.takeWhile Text.isBlank
  let (word, cs) ← mark? word.toList (cs.dropWhile Text.isBlank)
  (blankCuts cs).findSome? fun (more, cs) =>
    (closeMark? form o.delimiters.blockEnd cs).map fun (close, cs) =>
      (sign, taken ++ blanks ++ word ++ more ++ close, cs)

/-- What opens in the data. -/
inductive Opening where
  | raw
  | block
  | variable_
  | comment
  deriving DecidableEq, Repr

/-- A mark with those that are longer before it. -/
def insertMark (mark : Opening × List Char) : List (Opening × List Char) → List (Opening × List Char)
  | [] => [mark]
  | other :: rest =>
    if other.2.length ≤ mark.2.length then mark :: other :: rest else other :: insertMark mark rest

/-- The openings other than raw regions with their marks, in the order in which they are tried: the
longest mark first. -/
def openings (d : Delimiters) : List (Opening × List Char) :=
  [(.variable_, d.variableStart), (.comment, d.commentStart), (.block, d.blockStart)].foldr insertMark []

/-- A tag that opens here: what it is, its sign, its text and the rest. -/
def opening? (o : Options) (cs : List Char) : Option (Opening × List Char × List Char × List Char) :=
  match wordTag? o ⟨false, false⟩ "raw" cs with
  | some (sign, taken, rest) => some (.raw, sign, taken, rest)
  | none => (openings o.delimiters).findSome? fun (opening, mark) =>
    (openMark? mark cs).map fun (taken, sign, rest) => (opening, sign, taken, rest)

/-- The closing of blocks, raw regions and comments. -/
def Options.closing (o : Options) : Closing := ⟨true, o.trimBlocks⟩

/-- The first place where something is found, and what stands before it. -/
def firstFound? {α : Type} (find : List Char → Option α) (cs : List Char) : Option (List Char × α) :=
  match find cs with
  | some a => some ([], a)
  | none => match cs with
    | [] => none
    | c :: cs => (firstFound? find cs).map fun (before, a) => (c :: before, a)

/-- A text without the blanks between the start of its last line and its end, if nothing else stands
there. -/
def withoutIndent (startsLine : Bool) (text : List Char) : List Char :=
  let indent := (text.reverse.takeWhile (· ≠ '\n')).reverse
  let before := text.take (text.length - indent.length)
  if (startsLine || before ≠ []) && indent.all Text.isBlank then before else text

/-- Data before a tag with a sign; `isBlock` tells whether the tag is no variable. -/
def dataBefore (o : Options) (startsLine isBlock : Bool) (sign text : List Char) : List Char :=
  if sign = ['-'] then Text.dropEndWhile Text.isBlank text
  else if sign = [] && o.stripBlocks && isBlock then withoutIndent startsLine text
  else text

/-- A text with its line ends as they are to be written. -/
def withLineEnds (lineEnd text : List Char) : List Char :=
  if lineEnd = ['\n'] then text else text.flatMap fun c => if c = '\n' then lineEnd else [c]

/-- Data as tokens; no data are no token. -/
def dataTokens (o : Options) (line : Nat) (text : List Char) : List Token :=
  if text = [] then [] else [⟨line, .data (withLineEnds o.lineEnd text)⟩]

/-- The step through a comment that has been opened. -/
def commentMove (o : Options) (line : Nat) (cs : List Char) : Move :=
  if cs = [] then .halt []
  else match firstTaken? (closeMark? o.closing o.delimiters.commentEnd) cs with
    | none => .halt [⟨line, .broken (.grammar .unclosedComment)⟩]
    | some (before, taken, rest) => .go [] (.behind (line + Text.lineFeeds before) taken rest)

/-- The step through a raw region that has been opened. -/
def rawMove (o : Options) (startsLine : Bool) (line : Nat) (cs : List Char) : Move :=
  if cs = [] then .halt []
  else match firstFound? (wordTag? o o.closing "endraw") cs with
    | none => .halt [⟨line, .broken (.grammar .unclosedRaw)⟩]
    | some (before, sign, taken, rest) =>
      .go (dataTokens o line (dataBefore o startsLine true sign before))
        (.behind (line + Text.lineFeeds before) taken rest)

/-- The tokens of a step after others. -/
def Move.after (tokens : List Token) : Move → Move
  | go more next => go (tokens ++ more) next
  | halt more => halt (tokens ++ more)

/-- The step from data to the first tag, and through it if it is a comment or a raw region. -/
def dataMove (o : Options) (startsLine : Bool) (line : Nat) (cs : List Char) : Move :=
  match firstFound? (opening? o) cs with
  | none => .halt (dataTokens o line cs)
  | some (before, opening, sign, taken, rest) =>
    let data := dataTokens o line (dataBefore o startsLine (opening ≠ .variable_) sign before)
    let here := line + Text.lineFeeds before
    let behind := here + Text.lineFeeds taken
    match opening with
    | .raw => (rawMove o (taken.getLast? == some '\n') behind rest).after data
    | .comment => (commentMove o behind rest).after data
    | .block => .go (data ++ [⟨here, .blockBegin⟩]) ⟨.block, [], behind, rest⟩
    | .variable_ => .go (data ++ [⟨here, .variableBegin⟩]) ⟨.variable_, [], behind, rest⟩

/-- A digit run with single underscores inside. -/
def digitRun (isDigit : Char → Bool) : List Char → List Char × List Char
  | c :: cs =>
    if isDigit c then let (run, rest) := digitRun isDigit cs; (c :: run, rest)
    else if c = '_' ∧ (cs.head?.any isDigit) then
      let (run, rest) := digitRun isDigit cs
      (c :: run, rest)
    else ([], c :: cs)
  | [] => ([], [])

/-- The number that a digit stands for: a decimal one of any script, or one of a base up to sixteen. -/
def anyDigit? (c : Char) : Option Nat :=
  match digitValue? c with
  | some d => some d
  | none => Text.decimalDigit? c

/-- Whether the character is a decimal digit of any script. -/
def isDecimalDigit (c : Char) : Bool := (Text.decimalDigit? c).isSome

def runValue (base : Nat) (run : List Char) : Nat :=
  run.foldl (fun n c => match anyDigit? c with
    | some d => n * base + d
    | none => n) 0

def runDigits (run : List Char) : List Char := run.filter (· ≠ '_')

/-- A decimal digit run that starts with a digit. -/
def decimalRun? (cs : List Char) : Option (List Char × List Char) :=
  if cs.head?.any isDecimalDigit then some (digitRun isDecimalDigit cs) else none

/-- A decimal with a fraction or an exponent, taken apart. -/
structure Numeral where
  whole : List Char
  fraction : List Char
  exponent : List Char
  negative : Bool

namespace Numeral

/-- The number of a decimal in ASCII digits. -/
def number (n : Numeral) : Binary64 :=
  let e : Int := runValue 10 n.exponent
  Decimal.nearest (runValue 10 (runDigits (n.whole ++ n.fraction)))
    ((if n.negative then -e else e) - (runDigits n.fraction).length)

def token (n : Numeral) : TokenKind :=
  let digits := runDigits (n.whole ++ n.fraction ++ n.exponent)
  if digits.all Char.isDigit then .float n.number
  else .broken (.numeral (digits.headD '0'))

end Numeral

/-- The exponent of a number: whether it is negative, its digits and the rest. -/
def exponent? (cs : List Char) : Option (Bool × List Char × List Char) :=
  match cs with
  | e :: cs =>
    if e = 'e' ∨ e = 'E' then
      let (sign, cs) := cutSign cs
      (decimalRun? cs).map fun (run, rest) => (sign == ['-'], run, rest)
    else none
  | [] => none

def fraction? (cs : List Char) : Option (List Char × List Char) :=
  match cs with
  | '.' :: cs => decimalRun? cs
  | _ => none

/-- A number with a fraction or an exponent. -/
def numeral? (cs : List Char) : Option (Numeral × List Char) := do
  let (whole, cs) ← decimalRun? cs
  match fraction? cs with
  | some (part, rest) =>
    match exponent? rest with
    | some (negative, run, rest) => some (⟨whole, part, run, negative⟩, rest)
    | none => some (⟨whole, part, [], false⟩, rest)
  | none => (exponent? cs).map fun (negative, run, rest) => (⟨whole, [], run, negative⟩, rest)

/-- A digit run behind a base letter. -/
def basedRun? (base : Nat) (cs : List Char) : Option (TokenKind × List Char) :=
  let isDigit c := if base = 16 then (anyDigit? c).isSome else (digitValue? c).any (· < base)
  let (run, rest) := digitRun isDigit cs
  if run = [] then none else some (.integer (runValue base run), rest)

def decimalToken (run : List Char) : TokenKind :=
  let count := (runDigits run).length
  if Value.digitLimit < count then .broken (.digits count) else .integer (runValue 10 run)

def integer? (cs : List Char) : Option (TokenKind × List Char) :=
  match cs with
  | '0' :: rest =>
    let based := match rest with
      | c :: more => match c.toLower with
        | 'b' => basedRun? 2 more
        | 'o' => basedRun? 8 more
        | 'x' => basedRun? 16 more
        | _ => none
      | [] => none
    match based with
    | some found => some found
    | none =>
      -- A zero begins no other decimal: digits behind a run of zeros are a number of their own.
      let (run, rest) := digitRun (· == '0') rest
      some (decimalToken ('0' :: run), rest)
  | c :: _ =>
    if c.isDigit then
      let (run, rest) := digitRun isDecimalDigit cs
      some (decimalToken run, rest)
    else none
  | [] => none

def closingOf? (c : Char) : Option Char := [('(', ')'), ('[', ']'), ('{', '}')].lookup c

/-- The brackets open after a symbol. -/
def bracketsAfter (brackets symbol : List Char) : Except SyntaxFault (List Char) :=
  match symbol with
  | [c] =>
    match closingOf? c with
    | some close => .ok (close :: brackets)
    | none =>
      if c = ')' ∨ c = ']' ∨ c = '}' then
        match brackets with
        | [] => .error (.unexpectedBracket c none)
        | expected :: rest =>
          if expected = c then .ok rest else .error (.unexpectedBracket c (some expected))
      else .ok brackets
  | _ => .ok brackets

/-- The closing of the tag that the cursor stands in. -/
def tagClosing? (o : Options) (mode : Mode) (cs : List Char) :
    Option (TokenKind × List Char × List Char) :=
  match mode with
  | .block => (closeMark? o.closing o.delimiters.blockEnd cs).map fun (t, r) => (.blockEnd, t, r)
  | _ => (closeMark? ⟨false, false⟩ o.delimiters.variableEnd cs).map fun (t, r) => (.variableEnd, t, r)

def wordToken (word : List Char) : TokenKind :=
  if Text.isIdentifier word then .name (String.ofList word) else .broken (.grammar .badName)

/-- The step over one token within a tag. `afterPoint` tells that a point stands before. -/
def tagMove (o : Options) (size : Nat) (afterPoint : Bool) (c : Cursor) : Move :=
  let onward (kind : TokenKind) (rest : List Char) : Move :=
    match kind with
    | .broken _ => .halt [⟨c.line, kind⟩]
    | _ => .go [⟨c.line, kind⟩] { c with rest }
  let stop (fault : SyntaxFault) : Move := .halt [⟨c.line, .broken (.grammar fault)⟩]
  -- Where a bracket is open, the characters of a closing mark are symbols.
  match (if c.brackets = [] then tagClosing? o c.mode c.rest else none) with
  | some (kind, taken, rest) => .go [⟨c.line, kind⟩] (.behind c.line taken rest)
  | none =>
  match c.rest with
  | [] => .halt []
  | ch :: cs =>
    if Text.isBlank ch then
      let blanks := c.rest.takeWhile Text.isBlank
      .go [] { c with line := c.line + Text.lineFeeds blanks, rest := c.rest.dropWhile Text.isBlank }
    -- What follows a point is an index, which has no fraction of its own.
    else match (if afterPoint then none else numeral? c.rest) with
    | some (n, rest) => onward n.token rest
    | none =>
    match integer? c.rest with
    | some (kind, rest) => onward kind rest
    | none =>
    if Text.isWordChar ch then
      onward (wordToken (c.rest.takeWhile Text.isWordChar)) (c.rest.dropWhile Text.isWordChar)
    else match (if ch = '"' ∨ ch = '\'' then literalBody? ch cs else none) with
    | some (body, rest) =>
      match literalText (withLineEnds o.lineEnd body) with
      | .ok text =>
        let line := c.line + Text.lineFeeds body
        .go [⟨c.line, .string (String.ofList text)⟩] { c with line, rest }
      | .error reason => stop (.badEscape reason)
    | none =>
    match symbols.find? (·.isPrefixOf c.rest) with
    | some symbol =>
      match bracketsAfter c.brackets symbol with
      | .ok brackets =>
        .go [⟨c.line, .symbol (String.ofList symbol)⟩]
          { c with brackets, rest := c.rest.drop symbol.length }
      | .error fault => stop fault
    | none => stop (.unexpectedChar ch (size - c.rest.length))

/-- One step of a cursor in a text of a size. -/
def Cursor.move (o : Options) (size : Nat) (afterPoint : Bool) (c : Cursor) : Move :=
  match c.mode with
  | .data startsLine => dataMove o startsLine c.line c.rest
  | _ => tagMove o size afterPoint c

/-- Whether the last token is a point, with no blanks behind it. -/
def endsWithPoint (tokens : List Token) : Bool :=
  match tokens.getLast? with
  | some ⟨_, .symbol s⟩ => s == "."
  | _ => false

/-- The tokens from a place on. `fuel` bounds the number of steps; each takes a character. -/
def Cursor.tokens (o : Options) (size : Nat) : (fuel : Nat) → (afterPoint : Bool) → Cursor → List Token
  | 0, _, _ => []
  | fuel + 1, afterPoint, c =>
    match c.move o size afterPoint with
    | .halt tokens => tokens
    | .go tokens next => tokens ++ next.tokens o size fuel (endsWithPoint tokens)

/-- The text with its line ends unified, and without a last one unless it is to be kept. -/
def sourceText (keepLastLineEnd : Bool) (cs : List Char) : List Char :=
  let text := Text.unifyLineEnds cs
  if keepLastLineEnd then text
  else if text.getLast? = some '\n' then text.dropLast else text

/-- The tokens of a template; the last of them ends the text or tells why it cannot be read. -/
def tokenize (o : Options) (cs : List Char) : List Token :=
  let text := sourceText o.keepLastLineEnd cs
  let tokens := Cursor.tokens o text.length (text.length + 1) false ⟨.data true, [], 1, text⟩
  match tokens.getLast? with
  | none => [⟨1, .finish⟩]
  | some last => match last.kind with
    | .broken _ => tokens
    | _ => tokens ++ [⟨last.line, .finish⟩]

end Transclusion.Template

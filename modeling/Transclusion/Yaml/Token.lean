import Transclusion.Yaml.Tag

/-! Tokens of data.

The text is read from left to right. The columns of the block collections that
are open form a stack, and a line that begins further left closes those to the
right of it. A key needs no mark of its own: where one may begin, the place is
remembered for each level of brackets, and a colon that follows on the same line
and within 1024 characters makes it a key after the fact, by putting a mark, and
at a new column the beginning of a mapping, before the tokens since. At the
column of an open collection a key is required. -/
namespace Transclusion.Yaml

inductive Token where
  | documentStart
  | documentEnd
  | blockSequence
  | blockMapping
  | blockEnd
  | flowSequence
  | flowSequenceEnd
  | flowMapping
  | flowMappingEnd
  /-- A dash, before an item of a block. -/
  | item
  /-- A comma, between the items in brackets. -/
  | comma
  | key
  | value
  | anchor (name : List Char)
  | alias (name : List Char)
  | tag (tag : WrittenTag)
  | declaration (declaration : Declaration)
  | scalar (isPlain : Bool) (text : List Char)
  | broken (fault : ScanFault)
  deriving DecidableEq, Repr

/-- A name, before a gap or one of a few marks. -/
def name (text : Marked) : Except ScanFault (List Char × Marked) :=
  match spanClass isNameChar text with
  | ([], _) => .error .grammar
  | (cs, rest) =>
    if gapAhead rest ∨ rest.head?.any (fun m => "?:,]\x7d%@\x60".toList.contains m.char) then
      .ok (cs, rest)
    else .error .grammar

/-! ### Reading -/

/-- A place where a key may have begun. -/
structure Candidate where
  /-- The number of tokens before it. -/
  before : Nat
  place : Mark
  /-- Whether what begins there must be a key. -/
  isRequired : Bool

structure Reader where
  text : Marked
  tokens : Array Token
  /-- The columns of the open block collections, innermost first. -/
  columns : List Nat
  /-- Where a key may have begun on this level of brackets. -/
  candidate : Option Candidate
  /-- The same for the levels around, innermost first. -/
  outer : List (Option Candidate)
  mayBeginKey : Bool

namespace Reader

def inFlow (r : Reader) : Bool := !r.outer.isEmpty

/-- The least indentation of what belongs to the innermost collection. -/
def indent (r : Reader) : Nat :=
  match r.columns with
  | [] => 0
  | column :: _ => column + 1

def push (r : Reader) (token : Token) : Reader := { r with tokens := r.tokens.push token }

def goto (r : Reader) (text : Marked) : Reader := { r with text }

def allowKey (r : Reader) (allowed : Bool) : Reader := { r with mayBeginKey := allowed }

/-- The greatest distance between the beginning of a key and its colon. -/
def keyLimit : Nat := 1024

/-- A candidate as seen from a place: too far away, it is none. -/
def freshened (here : Mark) (c : Candidate) : Except ScanFault (Option Candidate) :=
  if c.place.line = here.line ∧ here.index ≤ c.place.index + keyLimit then .ok (some c)
  else if c.isRequired then .error .grammar
  else .ok none

/-- Gives up the candidates that are too far away. -/
def freshen (r : Reader) (here : Mark) : Except ScanFault Reader := do
  let fresh : Option Candidate → Except ScanFault (Option Candidate)
    | none => .ok none
    | some c => freshened here c
  return { r with candidate := ← fresh r.candidate, outer := ← r.outer.mapM fresh }

def dropCandidate (r : Reader) : Except ScanFault Reader :=
  if r.candidate.any (·.isRequired) then .error .grammar else .ok { r with candidate := none }

def noteCandidate (r : Reader) (here : Mark) : Except ScanFault Reader :=
  if r.mayBeginKey then
    r.dropCandidate.map fun r =>
      let isRequired := !r.inFlow && r.columns.head? == some here.column
      { r with candidate := some ⟨r.tokens.size, here, isRequired⟩ }
  else .ok r

/-- Closes the block collections to the right of a column. Within brackets none is closed. -/
def closeBlocks (keep : Nat → Bool) (r : Reader) : Reader :=
  if r.inFlow then r
  else
    let closed := r.columns.takeWhile fun column => !keep column
    { r with
      columns := r.columns.drop closed.length
      tokens := r.tokens ++ (closed.map fun _ => Token.blockEnd).toArray }

/-- Whether a collection at a column is to be opened. -/
def opensAt (r : Reader) (column : Nat) : Bool := r.columns.head?.all (· < column)

/-- Opens a block collection at a column, unless one is open there. -/
def openBlock (r : Reader) (column : Nat) (token : Token) : Reader :=
  if r.opensAt column then { r.push token with columns := column :: r.columns } else r

/-- A mark of a block that stands where a key may begin; within brackets nothing is opened. -/
def blockMark (r : Reader) (here : Mark) (opening : Token) : Except ScanFault Reader :=
  if r.inFlow then .ok r
  else if r.mayBeginKey then .ok (r.openBlock here.column opening)
  else .error .grammar

/-- The beginning or the end of a document. -/
def documentMark (r : Reader) (token : Token) : Except ScanFault Reader := do
  let r ← (r.closeBlocks fun _ => false).dropCandidate
  return (r.allowKey false).push token |>.goto (r.text.drop 3)

/-- A declaration, which begins in the first column. -/
def readDeclaration (r : Reader) (rest : Marked) : Except ScanFault Reader := do
  let r ← (r.closeBlocks fun _ => false).dropCandidate
  let (d, rest) ← declaration rest
  return ((r.allowKey false).push (.declaration d)).goto rest

def openFlow (r : Reader) (here : Mark) (token : Token) (rest : Marked) : Except ScanFault Reader := do
  let r ← r.noteCandidate here
  return { r.push token with
    text := rest, candidate := none, outer := r.candidate :: r.outer, mayBeginKey := true }

def closeFlow (r : Reader) (token : Token) (rest : Marked) : Except ScanFault Reader := do
  let r ← r.dropCandidate
  match r.outer with
  | [] => throw .grammar
  | candidate :: outer =>
    return { r.push token with text := rest, candidate, outer, mayBeginKey := false }

def readComma (r : Reader) (rest : Marked) : Except ScanFault Reader := do
  let r ← (r.allowKey true).dropCandidate
  return (r.push .comma).goto rest

/-- A dash. -/
def readItem (r : Reader) (here : Mark) (rest : Marked) : Except ScanFault Reader := do
  let r ← r.blockMark here .blockSequence
  let r ← (r.allowKey true).dropCandidate
  return (r.push .item).goto rest

/-- A question mark. -/
def readKey (r : Reader) (here : Mark) (rest : Marked) : Except ScanFault Reader := do
  let r ← r.blockMark here .blockMapping
  let r ← (r.allowKey !r.inFlow).dropCandidate
  return (r.push .key).goto rest

/-- A colon: what began at the candidate was a key, or else there is none. -/
def readValue (r : Reader) (here : Mark) (rest : Marked) : Except ScanFault Reader :=
  match r.candidate with
  | some c =>
    -- The mark of the key, and the one of a mapping that begins with it, belong before what has been read.
    let tokens := r.tokens.insertIdxIfInBounds c.before .key
    let opens := !r.inFlow && r.opensAt c.place.column
    .ok { r with
      tokens := (if opens then tokens.insertIdxIfInBounds c.before .blockMapping else tokens).push .value
      columns := if opens then c.place.column :: r.columns else r.columns
      candidate := none
      mayBeginKey := false
      text := rest }
  | none => do
    let r ← r.blockMark here .blockMapping
    let r ← (r.allowKey !r.inFlow).dropCandidate
    return (r.push .value).goto rest

/-- A token that a key may begin with. -/
def readStart (r : Reader) (here : Mark) (read : Except ScanFault (Token × Marked)) :
    Except ScanFault Reader := do
  let r ← r.noteCandidate here
  let (token, rest) ← read
  return ((r.allowKey false).push token).goto rest

def readPlain (r : Reader) (here : Mark) : Except ScanFault Reader := do
  let r ← r.noteCandidate here
  let text := plain r.inFlow r.indent r.text
  return ((r.allowKey text.endsLine).push (.scalar true text.text)).goto text.rest

def readBlock (r : Reader) (fold : Bool) (rest : Marked) : Except ScanFault Reader := do
  let r ← (r.allowKey true).dropCandidate
  let (text, rest) ← block fold r.indent rest
  return (r.push (.scalar false text)).goto rest

/-- The marks that no plain text begins with. -/
def marks : List Char := "-?:,[]\x7b\x7d#&*!|>\x27\"%@\x60".toList

/-- Whether a plain text begins here: not with a mark, but for a dash before a word, and outside of
brackets a question mark or a colon. -/
def beginsPlain (flow : Bool) (c : Char) (rest : Marked) : Bool :=
  (!isGap c && !marks.contains c) ||
    (!gapAhead rest && (c == '-' || (!flow && (c == '?' || c == ':'))))

/-- Reads one token that begins with the character here. -/
def readToken (r : Reader) (here : Mark) (rest : Marked) : Except ScanFault Reader :=
  let c := here.char
  let flow := r.inFlow
  if here.column = 0 ∧ c = '%' then r.readDeclaration rest
  else if here.column = 0 ∧ tripleAhead '-' r.text then r.documentMark .documentStart
  else if here.column = 0 ∧ tripleAhead '.' r.text then r.documentMark .documentEnd
  else if c = '[' then r.openFlow here .flowSequence rest
  else if c = '{' then r.openFlow here .flowMapping rest
  else if c = ']' then r.closeFlow .flowSequenceEnd rest
  else if c = '}' then r.closeFlow .flowMappingEnd rest
  else if c = ',' then r.readComma rest
  else if c = '-' ∧ gapAhead rest then r.readItem here rest
  else if c = '?' ∧ (flow ∨ gapAhead rest) then r.readKey here rest
  else if c = ':' ∧ (flow ∨ gapAhead rest) then r.readValue here rest
  else if c = '*' then r.readStart here ((name rest).map fun (cs, rest) => (.alias cs, rest))
  else if c = '&' then r.readStart here ((name rest).map fun (cs, rest) => (.anchor cs, rest))
  else if c = '!' then r.readStart here ((tag rest).map fun (t, rest) => (.tag t, rest))
  else if c = '|' ∧ !flow then r.readBlock false rest
  else if c = '>' ∧ !flow then r.readBlock true rest
  else if c = '\'' ∨ c = '"' then
    r.readStart here ((quoted (c == '"') rest).map fun (cs, rest) => (.scalar false cs, rest))
  else if beginsPlain flow c rest then r.readPlain here
  else .error .grammar

/-- Skips spaces, line ends and comments, and says whether a line began on the way. -/
def skipBlanks (inComment : Bool) : Marked → Bool × Marked
  | [] => (false, [])
  | m :: rest =>
    if isBreak m.char then (true, (skipBlanks false rest).2)
    else if inComment ∨ m.char = ' ' then skipBlanks inComment rest
    else if m.char = '#' then skipBlanks true rest
    else (false, m :: rest)

/-- Goes to the next token. Outside of brackets a key may begin on a new line. -/
def toToken (r : Reader) : Reader :=
  let (lineBegan, rest) := skipBlanks false r.text
  { r with text := rest, mayBeginKey := r.mayBeginKey || (lineBegan && !r.inFlow) }

/-- Reads the next token, with the marks that close what ends before it. -/
def readNext (r : Reader) : Except ScanFault Reader :=
  match r.text with
  | [] => (r.closeBlocks fun _ => false).dropCandidate
  | m :: rest => do
    let r ← r.freshen m
    (r.closeBlocks fun column => column ≤ m.column).readToken m rest

/-- The number of tokens before the first place where a key may still have begun. -/
def settled (r : Reader) : Except ScanFault Nat := do
  let r ← match r.text with
    | [] => pure r
    | m :: _ => r.freshen m
  pure ((r.candidate :: r.outer).foldl (fun least c => match c with
    | some c => min least c.before
    | none => least) r.tokens.size)

/-- The tokens that are told when the text cannot be read further, and why it cannot. -/
def brokenTokens (r : Reader) (fault : ScanFault) : Array Token :=
  match r.settled with
  | .ok count => (r.tokens.take count).push (.broken fault)
  | .error first => r.tokens.push (.broken first)

/-- The tokens of the whole text. `fuel` bounds the number of tokens that are read. -/
def readAll : (fuel : Nat) → Reader → Array Token
  | 0, r => r.tokens
  | fuel + 1, r =>
    match r.toToken.readNext with
    | .error fault => r.brokenTokens fault
    | .ok next => if r.toToken.text.isEmpty then next.tokens else readAll fuel next

end Reader

def tokens (text : List Char) : List Token :=
  if text.all isPermitted then
    let text := markedText text
    (Reader.readAll (text.length + 1) ⟨text, #[], [], none, [], true⟩).toList
  else [.broken .grammar]

end Transclusion.Yaml

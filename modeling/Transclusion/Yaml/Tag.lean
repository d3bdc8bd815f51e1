import Transclusion.Text.Encoding
import Transclusion.Yaml.Scalar

/-! Tags of data.

A tag says what a node is. It is written in full, or as a handle and a name: the
handle stands for what goes before the name. Two handles are there from the
start, and declarations before a document give others, or another meaning to
those two. What a handle stands for is looked up when the tag is used, so a tag
can be written under a handle that is not there. Sets and bytes are no values
here: their tags are unknown, and data that holds one is refused. -/
namespace Transclusion.Yaml

/-- What a node is said to be. -/
inductive Tag where
  /-- Whatever it looks like. -/
  | unspecified
  | text
  | null
  | truth
  | integer
  | real
  | moment
  | sequence
  /-- A sequence of pairs, each in a mapping of its own. -/
  | pairs
  | mapping
  /-- The mark under which a mapping takes in others. -/
  | merge
  /-- The mark of a default value. -/
  | defaultValue
  | unknown
  deriving DecidableEq, Repr

/-- What stands before the names of the tags that have a meaning. -/
def tagSpace : List Char := "tag:yaml.org,2002:".toList

def Tag.ofName (cs : List Char) : Tag :=
  if cs = ['!'] then .unspecified
  else if tagSpace.isPrefixOf cs then
    match String.ofList (cs.drop tagSpace.length) with
    | "str" => .text
    | "null" => .null
    | "bool" => .truth
    | "int" => .integer
    | "float" => .real
    | "timestamp" => .moment
    | "seq" => .sequence
    | "omap" | "pairs" => .pairs
    | "map" => .mapping
    | "merge" => .merge
    | "value" => .defaultValue
    | _ => .unknown
  else .unknown

/-- A tag as it is written: a name, and the handle of what goes before it. -/
structure WrittenTag where
  handle : Option (List Char)
  name : List Char
  deriving DecidableEq, Repr

/-- Handles, and what they stand for. -/
abbrev Handles := List (List Char × List Char)

def Handles.initial : Handles := [(['!'], ['!']), (['!', '!'], tagSpace)]

/-- The tag that is written, if its handle is there. -/
def WrittenTag.resolve? (tag : WrittenTag) (handles : Handles) : Option Tag :=
  match tag.handle with
  | none => some (.ofName tag.name)
  | some handle => (handles.lookup handle).map fun space => .ofName (space ++ tag.name)

/-! ### Reading tags -/

/-- The characters of handles and of the names of anchors. -/
def isNameChar (c : Char) : Bool := c.isAlphanum || c == '-' || c == '_'

def isTagChar (c : Char) : Bool := c.isAlphanum || "-;/?:@&=+$,_.!~*\x27()[]%".toList.contains c

/-- Whether a space, a line end or the end comes next. -/
def endsWord (text : Marked) : Bool := gapAhead text && !beginsWith '\t' text

def skipSpaces (text : Marked) : Marked := (spanClass (· == ' ') text).2

/-- The bytes that are written as percent signs with two digits each, and what follows them. -/
def escapedBytes : List Char → Except ScanFault (List UInt8 × List Char)
  | '%' :: a :: b :: rest => match hexValue? a, hexValue? b with
    | some m, some n =>
      (escapedBytes rest).map fun (bytes, after) => (UInt8.ofNat (16 * m + n) :: bytes, after)
    | _, _ => .error .grammar
  | ['%'] | ['%', _] => .error .grammar
  | cs => .ok ([], cs)

/-- A name with its escapes, which are bytes of UTF-8, read. `fuel` bounds its length. -/
def unescaped : (fuel : Nat) → List Char → Except ScanFault (List Char)
  | _, [] | 0, _ => .ok []
  | fuel + 1, c :: rest =>
    if c = '%' then do
      let (bytes, after) ← escapedBytes (c :: rest)
      let cs ← (Text.decodeUtf8 0 bytes).mapError fun _ => .grammar
      pure (cs ++ (← unescaped fuel after))
    else (unescaped fuel rest).map (c :: ·)

def tagName (text : Marked) : Except ScanFault (List Char × Marked) :=
  match spanClass isTagChar text with
  | ([], _) => .error .grammar
  | (cs, rest) => (unescaped cs.length cs).map (·, rest)

/-- Reads what is left of a handle behind its first exclamation mark. -/
def handleEnd (text : Marked) : Except ScanFault (List Char × Marked) :=
  let (cs, rest) := spanClass isNameChar text
  if beginsWith '!' rest then .ok ('!' :: cs ++ ['!'], rest.drop 1) else .error .grammar

/-- Reads a tag behind its first exclamation mark, but for the gap behind it. -/
def tagStart (text : Marked) : Except ScanFault (WrittenTag × Marked) := do
  if gapAhead text then pure (⟨none, ['!']⟩, text)
  else if beginsWith '<' text then
    let (name, rest) ← tagName (text.drop 1)
    if beginsWith '>' rest then pure (⟨none, name⟩, rest.drop 1) else throw .grammar
  else
    let word := (spanClass (fun c => c != ' ' && !isBreak c) text).1
    let (handle, rest) ← if word.contains '!' then handleEnd text else pure (['!'], text)
    let (name, rest) ← tagName rest
    pure (⟨some handle, name⟩, rest)

/-- Reads a tag behind its first exclamation mark, up to the space or line end that follows it. -/
def tag (text : Marked) : Except ScanFault (WrittenTag × Marked) := do
  let (t, rest) ← tagStart text
  if endsWord rest then pure (t, rest) else throw .grammar

/-! ### Declarations -/

/-- What stands before a document, behind a percent sign. -/
inductive Declaration where
  /-- The version of the notation, by its first number. -/
  | version (major : Nat)
  | handle (handle space : List Char)
  | other
  deriving DecidableEq, Repr

def versionNumber (text : Marked) : Except ScanFault (Nat × Marked) :=
  match spanClass Char.isDigit text with
  | ([], _) => .error .grammar
  | (ds, rest) => .ok (ds.foldl (fun n c => 10 * n + (c.toNat - '0'.toNat)) 0, rest)

/-- Reads a version: two numbers around a point. -/
def version (text : Marked) : Except ScanFault (Declaration × Marked) := do
  let (major, rest) ← versionNumber (skipSpaces text)
  unless beginsWith '.' rest do throw .grammar
  let (_, rest) ← versionNumber (rest.drop 1)
  if endsWord rest then pure (.version major, rest) else throw .grammar

/-- Reads a handle and what it stands for. -/
def handleMeaning (text : Marked) : Except ScanFault (Declaration × Marked) := do
  let text := skipSpaces text
  unless beginsWith '!' text do throw .grammar
  let text := text.drop 1
  let (handle, rest) ← if beginsWith ' ' text then pure (['!'], text) else handleEnd text
  unless beginsWith ' ' rest do throw .grammar
  let (space, rest) ← tagName (skipSpaces rest)
  if endsWord rest then pure (.handle handle space, rest) else throw .grammar

/-- Reads a declaration behind its percent sign, and its line to the end. -/
def declaration (text : Marked) : Except ScanFault (Declaration × Marked) := do
  let (word, rest) := spanClass isNameChar text
  if word.isEmpty || !endsWord rest then throw .grammar
  let (d, rest) ← match String.ofList word with
    | "YAML" => version rest
    | "TAG" => handleMeaning rest
    | _ => pure (.other, (spanClass (fun c => !isBreak c) rest).2)
  pure (d, ← lineEnd rest)

end Transclusion.Yaml

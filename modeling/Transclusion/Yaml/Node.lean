import Transclusion.Fault
import Transclusion.Yaml.Token

/-! Nodes of data.

Tokens form at most one document, which declarations may precede, and a document
holds one node: a scalar, a sequence or a mapping. What is left out is an empty
scalar. A node with an anchor can be meant again, later in the document, by an
alias; an anchor is given once. Where a scalar is asked for, a mapping stands for
the one that it holds under the mark of a default value. A token that tells why the text
cannot be read further counts as soon as it is the next one. -/
namespace Transclusion.Yaml

/-- How the text of a scalar is taken. -/
inductive Reading where
  /-- As what it looks like. -/
  | plain
  | text
  | null
  | truth
  | integer
  | real
  | moment
  deriving DecidableEq, Repr

/-- How a tag takes the text of a scalar, if it does. -/
def Tag.reading? : Tag → Option Reading
  | unspecified => some .plain
  | text => some .text
  | null => some .null
  | truth => some .truth
  | integer => some .integer
  | real => some .real
  | moment => some .moment
  | sequence | pairs | mapping | merge | defaultValue | unknown => none

/-- What keeps a text from being read. -/
def ScanFault.fault : ScanFault → Fault
  | grammar => .data
  | codePoint => .codePoint
  | hugeCodePoint => .overflow .codePoint

/-- A node, which need not be what its tag says. -/
inductive Node where
  | scalar (tag : Tag) (text : List Char)
  | sequence (tag : Tag) (items : List Node)
  | mapping (tag : Tag) (pairs : List (Node × Node))
  deriving Repr

namespace Node

def tag : Node → Tag
  | .scalar tag _ | .sequence tag _ | .mapping tag _ => tag

/-- What stands where nothing is written. -/
def empty : Node := .scalar .unspecified []

/-- Whether a node is a mark, by its tag or by what it looks like. -/
def isMark (tag : Tag) (mark : List Char) : Node → Bool
  | .scalar .unspecified text => text == mark
  | node => node.tag == tag

/-- The mark of a default value. -/
def defaultMark : List Char := ['=']

def isDefault (node : Node) : Bool := node.isMark .defaultValue defaultMark

mutual

/-- The text of a scalar, or of the default value of a mapping. -/
def text? : Node → Option (List Char)
  | .scalar _ text => some text
  | .mapping _ pairs => defaultText? pairs
  | .sequence _ _ => none

/-- The text of the first default value among pairs. -/
def defaultText? : List (Node × Node) → Option (List Char)
  | [] => none
  | (k, v) :: rest => if k.isDefault then v.text? else defaultText? rest

end

/-- A scalar with its tag. One that is written without marks is what it looks like. -/
def tagScalar (isPlain : Bool) (text : List Char) (tag : Option Tag) : Node :=
  .scalar (tag.getD (if isPlain then .unspecified else .text)) text

def tagSequence (items : List Node) : Option Tag → Node
  | none | some .unspecified => .sequence .sequence items
  | some tag => .sequence tag items

def tagMapping (pairs : List (Node × Node)) : Option Tag → Node
  | none | some .unspecified => .mapping .mapping pairs
  | some tag => .mapping tag pairs

end Node

/-- The tokens that are left, the handles of tags, and the nodes that have an anchor. -/
structure Outline where
  tokens : List Token
  handles : Handles
  anchors : List (List Char × Node)

abbrev Read := StateT Outline (Except Fault)

namespace Read

def peek : Read (Option Token) := do
  match (← get).tokens with
  | [] => return none
  | .broken fault :: _ => throw fault.fault
  | token :: _ => return some token

def skip : Read Unit := modify fun o => { o with tokens := o.tokens.drop 1 }

def fail {α : Type} : Read α := throw .data

/-- Goes behind the next token if it is this one. -/
def accept (token : Token) : Read Bool := do
  if (← peek) = some token then
    skip
    return true
  else return false

/-- Goes behind the next token, which must be this one. -/
def expect (token : Token) : Read Unit := do
  unless ← accept token do fail

/-- Whether the next token is one of these. -/
def at? (tokens : List Token) : Read Bool := return (← peek).any tokens.contains

def anchor? : Read (Option (List Char)) := do
  match ← peek with
  | some (.anchor name) => skip; return some name
  | _ => return none

/-- The tag that comes next, as it is written. -/
def tag? : Read (Option WrittenTag) := do
  match ← peek with
  | some (.tag tag) => skip; return some tag
  | _ => return none

def properties : Read (Option (List Char) × Option Tag) := do
  let early ← anchor?
  match ← tag? with
  | none => return (early, none)
  | some written =>
    let late ← if early.isNone then anchor? else pure none
    match written.resolve? (← get).handles with
    | some tag => return (early.or late, some tag)
    | none => fail

def aliased (name : List Char) : Read Node := do
  match (← get).anchors.lookup name with
  | some node => return node
  | none => fail

/-- Checks that an anchor is not given again. -/
def checkAnchor (name : Option (List Char)) : Read Unit := do
  let anchors := (← get).anchors
  if name.any fun name => (anchors.lookup name).isSome then fail

def remember (name : Option (List Char)) (node : Node) : Read Node := do
  match name with
  | none => return node
  | some name =>
    checkAnchor (some name)
    modify fun o => { o with anchors := (name, node) :: o.anchors }
    return node

inductive Position where
  /-- Within brackets. -/
  | flow
  | block
  /-- In a mapping, whose sequences need no further indentation. -/
  | entry
  deriving DecidableEq

mutual

/-- Reads a node. All readers here are bounded by `fuel`, of which a token takes at most four. -/
def node (position : Position) : (fuel : Nat) → Read Node
  | 0 => fail
  | fuel + 1 => do
    match ← peek with
    | some (.alias name) => skip; aliased name
    | _ =>
      let (anchor, tag) ← properties
      discard peek
      checkAnchor anchor
      let node ← content position anchor tag fuel
      remember anchor node

/-- Reads what stands behind anchor and tag. -/
def content (position : Position) (anchor : Option (List Char)) (tag : Option Tag) :
    (fuel : Nat) → Read Node
  | 0 => fail
  | fuel + 1 => do
    match ← peek, position with
    | some .item, .entry => return (Node.tagSequence · tag) (← looseItems fuel)
    | some (.scalar isPlain text), _ => skip; return Node.tagScalar isPlain text tag
    | some .flowSequence, _ => skip; return (Node.tagSequence · tag) (← flowItems true fuel)
    | some .flowMapping, _ => skip; return (Node.tagMapping · tag) (← flowPairs true fuel)
    | some .blockSequence, .block | some .blockSequence, .entry =>
      skip; return (Node.tagSequence · tag) (← blockItems fuel)
    | some .blockMapping, .block | some .blockMapping, .entry =>
      skip; return (Node.tagMapping · tag) (← blockPairs fuel)
    | _, _ => if anchor.isSome || tag.isSome then return Node.tagScalar true [] tag else fail

/-- Reads a node, or nothing before one of these tokens. -/
def nodeUnless (ends : List Token) (position : Position) : (fuel : Nat) → Read Node
  | 0 => fail
  | fuel + 1 => do if ← at? ends then return .empty else node position fuel

def blockItems : (fuel : Nat) → Read (List Node)
  | 0 => fail
  | fuel + 1 => do
    if ← accept .item then
      let item ← nodeUnless [.item, .blockEnd] .block fuel
      return item :: (← blockItems fuel)
    else
      expect .blockEnd
      return []

/-- Reads the items of a sequence that is indented no further than the mapping it stands in. -/
def looseItems : (fuel : Nat) → Read (List Node)
  | 0 => fail
  | fuel + 1 => do
    if ← accept .item then
      let item ← nodeUnless [.item, .key, .value, .blockEnd] .block fuel
      return item :: (← looseItems fuel)
    else return []

/-- Reads the pairs of a block. What stands for a key or a value may be missing. -/
def blockPairs : (fuel : Nat) → Read (List (Node × Node))
  | 0 => fail
  | fuel + 1 => do
    if ← accept .key then
      let key ← nodeUnless [.key, .value, .blockEnd] .entry fuel
      let value ← blockValue fuel
      return (key, value) :: (← blockPairs fuel)
    else
      expect .blockEnd
      return []

/-- Reads the value of a pair of a block. -/
def blockValue : (fuel : Nat) → Read Node
  | 0 => fail
  | fuel + 1 => do
    if ← accept .value then nodeUnless [.key, .value, .blockEnd] .entry fuel else return .empty

/-- Reads the value of a pair within brackets that end with `close`. -/
def flowValue (close : Token) : (fuel : Nat) → Read Node
  | 0 => fail
  | fuel + 1 => do
    if ← accept .value then nodeUnless [.comma, close] .flow fuel else return .empty

/-- Reads the items of a sequence in brackets. An item may be a single pair. -/
def flowItems (isFirst : Bool) : (fuel : Nat) → Read (List Node)
  | 0 => fail
  | fuel + 1 => do
    if ← accept .flowSequenceEnd then return []
    else
      unless isFirst do expect .comma
      if ← accept .flowSequenceEnd then return []
      else
        let item ←
          if ← accept .key then
            let key ← nodeUnless [.value, .comma, .flowSequenceEnd] .flow fuel
            let value ← flowValue .flowSequenceEnd fuel
            pure (.mapping .mapping [(key, value)])
          else node .flow fuel
        return item :: (← flowItems false fuel)

/-- Reads the pairs of a mapping in braces. -/
def flowPairs (isFirst : Bool) : (fuel : Nat) → Read (List (Node × Node))
  | 0 => fail
  | fuel + 1 => do
    if ← accept .flowMappingEnd then return []
    else
      unless isFirst do expect .comma
      if ← accept .flowMappingEnd then return []
      else
        let pair ←
          if ← accept .key then
            let key ← nodeUnless [.value, .comma, .flowMappingEnd] .flow fuel
            let value ← flowValue .flowMappingEnd fuel
            pure (key, value)
          else
            let key ← node .flow fuel
            pure (key, .empty)
        return pair :: (← flowPairs false fuel)

end

/-- Goes behind marks of a document's end. -/
def skipEnds : Read Unit := modify fun o => { o with tokens := o.tokens.dropWhile (· = .documentEnd) }

/-- The only version of the notation, by its first number. -/
def supportedVersion : Nat := 1

/-- Reads the declarations before a document, each of which may be given once. -/
def declarations (isVersioned : Bool) : (fuel : Nat) → Read Unit
  | 0 => fail
  | fuel + 1 => do
    match ← peek with
    | some (.declaration (.version major)) =>
      skip
      if isVersioned || major != supportedVersion then fail
      declarations true fuel
    | some (.declaration (.handle handle space)) =>
      skip
      let handles := (← get).handles
      if (handles.lookup handle).isSome then fail
      modify fun o => { o with handles := handles ++ [(handle, space)] }
      declarations isVersioned fuel
    | some (.declaration .other) =>
      skip
      declarations isVersioned fuel
    | _ => return ()

/-- Reads the only document behind its first token, if it begins with a mark or a declaration. -/
def explicitDocument (fuel : Nat) : Read Node := do
  declarations false fuel
  expect .documentStart
  modify fun o => { o with handles := o.handles ++ Handles.initial }
  match ← peek with
  | none | some .documentStart | some .documentEnd | some (.declaration _) => return .empty
  | _ => node .block fuel

def implicitDocument (fuel : Nat) : Read Node := do
  modify fun o => { o with handles := Handles.initial }
  node .block fuel

/-- Reads the node of the only document, if there is a document. -/
def document (fuel : Nat) : Read (Option Node) := do
  match ← peek with
  | none => return none
  | some first =>
    let node ← match first with
      | .documentStart | .declaration _ => explicitDocument fuel
      | _ => implicitDocument fuel
    skipEnds
    if (← peek).isSome then fail else return some node

end Read

/-- The node of a text, if it holds a document. -/
def node? (text : List Char) : Except Fault (Option Node) :=
  let tokens := tokens text
  (·.1) <$> (Read.document (4 * tokens.length + 4)).run ⟨tokens, [], []⟩

end Transclusion.Yaml

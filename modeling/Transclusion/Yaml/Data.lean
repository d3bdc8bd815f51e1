import Transclusion.Yaml.Untagged

/-! Data.

A node becomes a value round by round: a round settles the scalars of the
collections that the round before has met. Of several faults the one of the
earliest round is reported, and of those the first. A mapping first takes in the
entries of the mappings under its merge mark, which must be mappings before any
entry counts; after that, what is given last for a key stays. A node that is said
to be a collection and is none is met when the collection is filled. -/
namespace Transclusion.Yaml

/-- A fault, and the round in which it is met. -/
structure Flaw where
  round : Nat
  fault : Fault

/-- Both results, or the flaw that is met first. -/
def both {α β : Type} : Except Flaw α → Except Flaw β → Except Flaw (α × β)
  | .ok a, .ok b => .ok (a, b)
  | .error e, .ok _ => .error e
  | .ok _, .error e => .error e
  | .error e, .error f => .error (if f.round < e.round then f else e)

/-- A result that fails in a round. -/
def inRound {α : Type} (round : Nat) (result : Except Fault α) : Except Flaw α :=
  result.mapError (⟨round, ·⟩)

namespace Node

def isMerge (node : Node) : Bool := node.isMark .merge mergeMark

/-- The value of a node that is read as a scalar; with neither a reading nor a text there is a flaw. -/
def readAs (round : Nat) : Option Reading → Option (List Char) → Flaw → Except Flaw Value
  | some reading, some text, _ => inRound round (reading.value text)
  | _, _, flaw => .error flaw

/-- The value of a key, which is a scalar. The default mark stands for itself there. -/
def key (round : Nat) (node : Node) : Except Flaw Value :=
  readAs round (if node.isDefault then some .text else node.tag.reading?) node.text? ⟨round, .data⟩

/-- A mapping of pairs: what is given last for a key stays. -/
def entriesOf (pairs : List (Value × Value)) : List (Value × Value) :=
  pairs.foldl (fun entries (k, v) => Value.insertKey k v entries) []

mutual

/-- Whether a node is a mapping that takes in nothing but mappings. -/
def isMergeable : Node → Bool
  | .mapping _ pairs => mergesAll pairs
  | .scalar _ _ | .sequence _ _ => false

/-- Whether a node is such a mapping or a sequence of them. -/
def mergesFrom : Node → Bool
  | .mapping _ pairs => mergesAll pairs
  | .sequence _ nodes => areMergeable nodes
  | .scalar _ _ => false

/-- Whether all nodes are such mappings. -/
def areMergeable : List Node → Bool
  | [] => true
  | node :: rest => node.isMergeable && areMergeable rest

/-- Whether only mappings, or sequences of them, are taken in. -/
def mergesAll : List (Node × Node) → Bool
  | [] => true
  | (k, v) :: rest => (!k.isMerge || v.mergesFrom) && mergesAll rest

end

/-- The flaw of a node that is not what its tag says. -/
def misfit (round : Nat) (tag : Tag) : Flaw :=
  ⟨if tag = .sequence ∨ tag = .pairs ∨ tag = .mapping then round + 1 else round, .data⟩

mutual

def value (round : Nat) : Node → Except Flaw Value
  | .scalar tag text => readAs round tag.reading? (some text) (misfit round tag)
  | .sequence tag nodes =>
    if tag = .sequence then (items (round + 1) nodes).map .list
    else if tag = .pairs then (pairItems (round + 1) nodes).map .list
    else .error (misfit round tag)
  | .mapping tag nodes =>
    if tag = .mapping then
      if mergesAll nodes then
        (both (takenPairs (round + 1) nodes) (ownPairs (round + 1) nodes)).map fun (taken, own) =>
          .dict (entriesOf (taken ++ own))
      else .error ⟨round + 1, .data⟩
    else readAs round tag.reading? (defaultText? nodes) (misfit round tag)

/-- The values of the items of a sequence. -/
def items (round : Nat) : List Node → Except Flaw (List Value)
  | [] => .ok []
  | node :: rest => (both (value round node) (items round rest)).map fun (v, vs) => v :: vs

/-- The values of the items of a sequence of pairs. -/
def pairItems (round : Nat) : List Node → Except Flaw (List Value)
  | [] => .ok []
  | node :: rest => (both (pairOf round node) (pairItems round rest)).map fun (v, vs) => v :: vs

/-- The pair that a node holds, a mapping of nothing else. -/
def pairOf (round : Nat) : Node → Except Flaw Value
  | .mapping _ pairs => onlyPair round pairs
  | .scalar _ _ | .sequence _ _ => .error ⟨round, .data⟩

def onlyPair (round : Nat) : List (Node × Node) → Except Flaw Value
  | [(k, v)] => (both (value round k) (value round v)).map fun (a, b) => .tuple [a, b]
  | [] | _ :: _ :: _ => .error ⟨round, .data⟩

def takenPairs (round : Nat) : List (Node × Node) → Except Flaw (List (Value × Value))
  | [] => .ok []
  | (k, v) :: rest =>
    if k.isMerge then (both (merged round v) (takenPairs round rest)).map fun (taken, ps) => taken ++ ps
    else takenPairs round rest

/-- The pairs of a mapping but those that it takes in. -/
def ownPairs (round : Nat) : List (Node × Node) → Except Flaw (List (Value × Value))
  | [] => .ok []
  | (k, v) :: rest =>
    if k.isMerge then ownPairs round rest
    else (both (both (key round k) (value round v)) (ownPairs round rest)).map fun (pair, ps) =>
      pair :: ps

/-- The pairs under a merge mark: those of a mapping, or of a sequence of mappings, the last first. -/
def merged (round : Nat) : Node → Except Flaw (List (Value × Value))
  | .mapping _ nodes =>
    (both (takenPairs round nodes) (ownPairs round nodes)).map fun (taken, own) => taken ++ own
  | .sequence _ nodes => mergedItems round nodes
  | .scalar _ _ => .error ⟨round, .data⟩

/-- The pairs of a sequence of mappings, the last first. -/
def mergedItems (round : Nat) : List Node → Except Flaw (List (Value × Value))
  | [] => .ok []
  | node :: rest => (both (mergedItems round rest) (merged round node)).map fun (later, taken) =>
    later ++ taken

end

end Node

/-- The value of a text; of one without a document, nothing. -/
def load (text : List Char) : Except Fault Value := do
  match ← node? text with
  | none => return .null
  | some node => (node.value 0).mapError (·.fault)

end Transclusion.Yaml

import Transclusion.Inclusion.Execute

/-! Segments: a small host.

A partial is cut into segments of three kinds: text, variables between double
braces and directives between braces with percent signs. A variable is looked up
in the scope when the partial runs; a few names that no variable can have stand
for faults, for a change of the scope or for its depth. A source that starts with
a certain word is not accepted. -/
namespace Transclusion.Segments

open Directive Inclusion

/-- A segment as it is cut. -/
inductive Cut where
  | text (s : List Char)
  | variable_ (name : List Char)
  | directive (tag markup : List Char)
  deriving DecidableEq, Repr

/-- A segment with its directive prepared. -/
inductive Piece where
  | text (s : String)
  | variable_ (name : String)
  | directive (invocation : Invocation)

/-- The text before the first opening and whether a directive opens there, and what follows it. -/
def opening? : List Char → Option (List Char × Bool × List Char)
  | '{' :: '{' :: rest => some ([], false, rest)
  | '{' :: '%' :: rest => some ([], true, rest)
  | [] => none
  | c :: cs => (opening? cs).map fun (before, kind, rest) => (c :: before, kind, rest)

def stripSpaces (cs : List Char) : List Char := Text.trim (· == ' ') cs

/-- The segment of the text between an opening and its closing. -/
def Cut.ofInner (isDirective : Bool) (inner : List Char) : Cut :=
  let inner := stripSpaces inner
  if isDirective then
    match Text.cutAt? [' '] inner with
    | some (tag, markup) => .directive tag markup
    | none => .directive inner []
  else .variable_ inner

/-- The segments of a text; the last is always a text. `fuel` bounds the number of openings. -/
def cutWith : (fuel : Nat) → List Char → List Cut
  | 0, cs => [.text cs]
  | fuel + 1, cs => match opening? cs with
    | none => [.text cs]
    | some (before, isDirective, rest) =>
      match Text.cutAt? (if isDirective then ['%', '}'] else ['}', '}']) rest with
      | none => [.text cs]
      | some (inner, rest) => .text before :: .ofInner isDirective inner :: cutWith fuel rest

def cut (cs : List Char) : List Cut := cutWith cs.length cs

/-- The word at the start of a source that is not accepted. -/
def refusal : List Char := "!syntax".toList

/-- Prepares the directives of the segments, from left to right. -/
def prepareAll (clerk : Clerk) : List Cut → Run Desk (List Piece)
  | [] => pure []
  | c :: rest => do
    let piece ← match c with
      | .text s => pure (.text (String.ofList s))
      | .variable_ name => pure (.variable_ (String.ofList name))
      | .directive tag markup => do pure (.directive (← clerk.prepare (String.ofList tag) markup))
    pure (piece :: (← prepareAll clerk rest))

def compile (clerk : Clerk) (source : Source) (name : String) : Run Desk (List Piece) := do
  let text ← match source with
    | .text cs => pure cs
    | .bytes bytes => Run.ofExcept ((Text.decode .utf8 bytes).mapError .undecodable)
  if refusal.isPrefixOf text then throw (.badSource name) else prepareAll clerk (cut text)

/-- A value as a segment shows it: a text as it is, anything else in notation. -/
def shown : Value → String
  | .text s => s
  | v => v.notationForm

/-- What a variable stands for. -/
def lookUp (name : String) : Script String :=
  if name = "!value" then .fail (.raised .value [.text "partial exploded"])
  else if name = "!key" then .fail (.raised .key [.text "missing 'key'"])
  else if name = "!runtime" then .fail (.raised .runtime [.text "not a host error"])
  else if name = "!leak" then .bind_ "leaked" (.bool true) (.done "")
  else if name = "!depth" then .look fun scope => .done (toString scope.depth)
  else .look fun scope => .ofExcept ((scope.get? name).map fun v => shown (v.getD (.text "")))

def Piece.script : Piece → Script String
  | text s => .done s
  | variable_ name => lookUp name
  | directive invocation => .call invocation none .done

/-- Runs segments one after another and puts their texts together. -/
def script : List Piece → Script String
  | [] => .done ""
  | piece :: rest => piece.script.andThen fun s => (script rest).andThen fun t => .done (s ++ t)

/-- The value of a variable that is not set: a text that names it, or nothing. -/
def unset (named : Bool) (name : String) : Value :=
  if named then .text s!"<undefined {name}>" else .null

def host (clerk : Clerk) (namedUnset : Bool) : Host (List Piece) where
  compile := compile clerk
  script := script
  unset := unset namedUnset
  rejects
    | .badSource _ => true
    | fault => fault.isUndecodable
  stops fault := fault.isValue || fault.isLookup

end Transclusion.Segments

import Transclusion.Template.Options
import Transclusion.Text.Blank
import Transclusion.Text.Literal

/-! Directive tags made readable.

The markup of a directive is no expression of the template language. Before a
template is read, every directive tag is therefore rewritten so that its markup
is one string literal. Raw regions and comments are found first at every place
and kept as they are; so is everything else outside of directive tags. A tag
whose name is a registered one ends at the first closing of a block. -/
namespace Transclusion.Template

/-- What a reader takes from the start of a text, and what it leaves. -/
abbrev Taken := Option (List Char × List Char)

def mark? (mark cs : List Char) : Taken :=
  if mark.isPrefixOf cs then some (mark, cs.drop mark.length) else none

def isSign (c : Char) : Bool := c == '-' || c == '+'

/-- Reads a mark with a sign before it, or else the mark alone. -/
def signedMark? (mark cs : List Char) : Taken :=
  match cs with
  | c :: rest =>
    if isSign c && mark.isPrefixOf rest then some (c :: mark, rest.drop mark.length) else mark? mark cs
  | [] => mark? mark cs

/-- The first place where a reader takes something: what stands before, what it takes and leaves. -/
def firstTaken? (reader : List Char → Taken) (cs : List Char) :
    Option (List Char × List Char × List Char) :=
  match reader cs with
  | some (taken, rest) => some ([], taken, rest)
  | none => match cs with
    | [] => none
    | c :: cs => (firstTaken? reader cs).map fun (before, taken, rest) => (c :: before, taken, rest)

/-- The characters of a sign, if one comes first, and the rest. -/
def cutSign : List Char → List Char × List Char
  | c :: cs => if isSign c then ([c], cs) else ([], c :: cs)
  | [] => ([], [])

/-- The ways to take blanks from the start of a text, the longest first. -/
def blankCuts (cs : List Char) : List (List Char × List Char) :=
  match cs with
  | [] => [([], [])]
  | c :: rest =>
    if Text.isBlank c then (blankCuts rest).map (fun (b, r) => (c :: b, r)) ++ [([], c :: rest)]
    else [([], c :: rest)]

/-- The ways to read a block that holds one word alone. -/
def wordBlocks (d : Delimiters) (word cs : List Char) : List (List Char × List Char) :=
  let block : Option (List Char × List Char) := do
    let (start, cs) ← mark? d.blockStart cs
    let (sign, cs) := cutSign cs
    let (_, rest) ← mark? word (cs.dropWhile Text.isBlank)
    some (start ++ sign ++ cs.takeWhile Text.isBlank ++ word, rest)
  match block with
  | none => []
  | some (opening, cs) =>
    (blankCuts cs).filterMap fun (blanks, cs) =>
      (signedMark? d.blockEnd cs).map fun (close, cs) => (opening ++ blanks ++ close, cs)

def rawRegion? (d : Delimiters) (cs : List Char) : Taken :=
  (wordBlocks d "raw".toList cs).findSome? fun (opening, cs) => do
    let (inner, closing, cs) ← firstTaken? (fun cs => (wordBlocks d "endraw".toList cs).head?) cs
    some (opening ++ inner ++ closing, cs)

def comment? (d : Delimiters) (cs : List Char) : Taken := do
  let (opening, cs) ← mark? d.commentStart cs
  let (inner, closing, cs) ← firstTaken? (mark? d.commentEnd) cs
  some (opening ++ inner ++ closing, cs)

/-- A directive tag, taken apart. -/
structure TagText where
  /-- The opening with its sign. -/
  opening : List Char
  blanks : List Char
  name : List Char
  markup : List Char
  /-- The closing with its sign. -/
  closing : List Char
  deriving DecidableEq, Repr

namespace TagText

/-- The tag as it stands. -/
def source (t : TagText) : List Char := t.opening ++ t.blanks ++ t.name ++ t.markup ++ t.closing

/-- The tag with its markup as a literal. -/
def rewritten (t : TagText) : List Char :=
  t.opening ++ ' ' :: t.name ++ ' ' :: Text.literal .transparent (Text.strip t.markup) ++
    ' ' :: t.closing

end TagText

/-- The ways to take a sign from the start of a text: with it, and then without it. -/
def signCuts (cs : List Char) : List (List Char × List Char) :=
  match cutSign cs with
  | ([], cs) => [([], cs)]
  | (sign, rest) => [(sign, rest), ([], cs)]

/-- Whether a tag's name ends here: before a blank or the closing of the block. -/
def endsName (d : Delimiters) (cs : List Char) : Bool :=
  (match cs with
    | c :: _ => Text.isBlank c
    | [] => false) || (signedMark? d.blockEnd cs).isSome

/-- A name with those that are longer before it. -/
def insertByLength (name : List Char) : List (List Char) → List (List Char)
  | [] => [name]
  | n :: rest =>
    if n.length < name.length then name :: n :: rest else n :: insertByLength name rest

/-- Names in the order in which they are tried: the longest first. -/
def byLength (names : List (List Char)) : List (List Char) := names.foldr insertByLength []

/-- Reads a tag of one of the names, which are tried in the order given. -/
def tag? (d : Delimiters) (names : List (List Char)) (cs : List Char) :
    Option (TagText × List Char) := do
  let (start, cs) ← mark? d.blockStart cs
  (signCuts cs).findSome? fun (sign, cs) =>
    (blankCuts cs).findSome? fun (blanks, cs) =>
      names.findSome? fun name => do
        let (_, cs) ← mark? name cs
        if endsName d cs then
          let (markup, closing, cs) ← firstTaken? (signedMark? d.blockEnd) cs
          some (⟨start ++ sign, blanks, name, markup, closing⟩, cs)
        else none

/-- What a template's text consists of, before it is read. -/
inductive Region where
  | plain (c : Char)
  /-- A raw region or a comment. -/
  | kept (text : List Char)
  | tag (t : TagText)
  deriving DecidableEq, Repr

namespace Region

/-- The region as it stands. -/
def source : Region → List Char
  | plain c => [c]
  | kept text => text
  | tag t => t.source

/-- The region with its markup as a literal, if it is a tag. -/
def rewritten : Region → List Char
  | tag t => t.rewritten
  | region => region.source

end Region

/-- The region that starts here, other than a plain character. -/
def region? (d : Delimiters) (names : List (List Char)) (cs : List Char) : Option (Region × List Char) :=
  match rawRegion? d cs with
  | some (text, rest) => some (.kept text, rest)
  | none => match comment? d cs with
    | some (text, rest) => some (.kept text, rest)
    | none => (tag? d names cs).map fun (t, rest) => (.tag t, rest)

def regions (d : Delimiters) (names : List (List Char)) (cs : List Char) : List Region :=
  match cs with
  | [] => []
  | c :: rest =>
    match region? d names (c :: rest) with
    | some (region, after) =>
      if after.length < (c :: rest).length then region :: regions d names after
      else .plain c :: regions d names rest
    | none => .plain c :: regions d names rest
termination_by cs.length
decreasing_by
  all_goals
    simp only [List.length_cons] at *
    omega

/-- A text with its directive tags rewritten. Without directives nothing is rewritten. -/
def rewriteTags (d : Delimiters) (names : List (List Char)) (cs : List Char) : List Char :=
  if names = [] then cs else (regions d (byLength names) cs).flatMap Region.rewritten

end Transclusion.Template

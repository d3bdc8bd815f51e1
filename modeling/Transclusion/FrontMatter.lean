import Transclusion.Text.Cut
import Transclusion.Yaml.Data

/-! Front matter.

A document may begin with a mapping between two delimiter lines: the first line
is three dashes, with blanks behind them at most; the block ends at the first
line that, trimmed, is three dashes or three dots. What is behind that line is
the body, whatever it holds. -/
namespace Transclusion

namespace FrontMatter

def rule : List Char := "---".toList

def dots : List Char := "...".toList

/-- Whether a line ends a block. -/
def isDelimiter (line : List Char) : Bool :=
  let line := Text.strip line
  line == rule || line == dots

/-- Whether a line begins a block. -/
def isOpening (line : List Char) : Bool := rule.isPrefixOf line && Text.strip line == rule

/-- The lines of a document: those of its block, and those of its body. -/
structure Sections where
  block : List (List Char)
  body : List (List Char)

/-- Takes the lines of a document apart. One without a block has none. -/
def sections? : List (List Char) → Except Fault (Option Sections)
  | [] => .ok none
  | first :: rest =>
    if isOpening first then
      match rest.dropWhile fun line => !isDelimiter line with
      | [] => .error .unclosedFrontMatter
      | _ :: body => .ok (some ⟨rest.takeWhile fun line => !isDelimiter line, body⟩)
    else .ok none

/-- The mapping of a block; one that counts as false is empty. -/
def entries (block : List Char) : Except Fault (List (Value × Value)) :=
  match Yaml.load block with
  | .error .data => .error .frontMatterData
  | .error fault => .error fault
  | .ok v => match v with
    | .dict entries => .ok entries
    | v => if v.isTruthy then .error .frontMatterShape else .ok []

/-- The mapping and the body of a document. -/
def parse (content : List Char) : Except Fault (List (Value × Value) × List Char) := do
  match ← sections? (Text.splitOn '\n' content) with
  | none => return ([], content)
  | some sections =>
    let data ← entries (Text.joinWith '\n' sections.block)
    return (data, Text.joinWith '\n' sections.body)

end FrontMatter

end Transclusion

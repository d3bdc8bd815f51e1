import Transclusion.Decoding
import Transclusion.Template.Check
import Transclusion.Template.Folding
import Transclusion.Template.Parser
import Transclusion.Template.Play

/-! Compiling templates.

A template is rewritten, cut into tokens and read. The directives that were met
are prepared in the order in which they stand, before anything that comes behind
a fault in the reading is reported; then constants are put in their place, the
template is checked, and last the name that it is compiled under. -/
namespace Transclusion.Template

open Directive Inclusion

/-- Prepares the directives met, from the first on. -/
def rememberedAll (clerk : Clerk) : List MetDirective →
    Run Desk (List ((String × String) × Invocation))
  | [] => pure []
  | (tag, markup) :: rest => do
    let invocation ← clerk.remembered tag markup
    pure (((tag, String.ofList markup), invocation) :: (← rememberedAll clerk rest))

/-- Checks the name that a template is compiled under. -/
def checkTemplateName (name : Option String) : Checked :=
  if name.any (·.toList.contains '\x00') then .error .nulCharacter else .ok ()

/-- Compiles a text, under a name if it has one. -/
def compileText (o : Options) (clerk : Clerk) (name : Option String) (text : List Char) :
    Run Desk Compiled := do
  let names := clerk.registry.names
  let rewritten := rewriteTags o.delimiters (names.map String.toList) text
  let (outcome, met) := parse names (tokenize o rewritten)
  let invocations ← rememberedAll clerk met
  let parts := foldedParts o (← Run.ofExcept outcome)
  Run.ofExcept (checkTemplate o parts)
  Run.ofExcept (checkTemplateName name)
  Run.ofExcept (checkHeads parts)
  pure ⟨name, parts, invocations⟩

/-- Compiles a source, whose bytes are in the encoding of a name. -/
def compile (o : Options) (clerk : Clerk) (encoding : String) (source : Source) (name : String) :
    Run Desk Compiled := do
  match source with
  | .text cs => compileText o clerk (some name) cs
  | .bytes bytes =>
    let text ← Run.ofExcept (decodeBytes encoding bytes o.library.codecs)
    compileText o clerk (some name) text

def host (o : Options) (clerk : Clerk) (encoding : String) : Host Compiled where
  compile := compile o clerk encoding
  script := Compiled.script o clerk
  unset name := .undefined (.name name)
  rejects
    | .syntaxError _ _ | .nameError _ _ => true
    | fault => fault.isUndecodable
  stops fault :=
    fault.isTemplate || fault.isArithmetic || fault.isLookup || fault.isType || fault.isValue
  attributes := o.library.attributes
  nesting := o.library.nesting

end Transclusion.Template

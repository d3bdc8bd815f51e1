import Transclusion.Proofs.Reading
import Transclusion.Proofs.Templates
import Transclusion.Proofs.Upkeep
import Transclusion.Renderer

/-! Rendering and the plain reading.

Templates are read plainly: what a template comes to depends on nothing in its
scope but what the layers show together, and compiling it on nothing but what the
clerk answers. So a directive of a renderer comes to what it means in the
environment at hand, and so does a template with all that it includes
(`execution_eq_reading`). What a partial binds is gone with it, and directives
behind it have the meaning that they would have in its place.

The environment of a directive is what its template was evaluated in, with all that
is seen at the directive laid over it. At the directives of the template itself that
is what is seen, and no more. A macro that another template calls sees less than the
template that calls it was evaluated in, and what that binds shows through
(`renderText_through`). -/
namespace Transclusion

open Directive Inclusion

theorem Template.host_plain (o : Options) (clerk : Clerk) (encoding : String) :
    (Template.host o clerk encoding).Plain clerk.SameAnswers where
  lasting := ⟨.refl, Clerk.SameAnswers.trans, fun _ _ => Clerk.sameAnswers_of_memo rfl,
    fun source name d => (settled_compile clerk o encoding source name d).2⟩
  symm := Clerk.SameAnswers.symm
  compile := agree_compile Clerk.agree_remembered o encoding
  script compiled := compiled.alike_script o clerk

namespace Renderer

variable (r : Renderer) (files : Files) (document : Option Document)

/-- What a source comes to in a plain reading: it is compiled and evaluated over the variables that every
template sees, and so is what it includes. -/
def read (lay : (environment frame : Bindings) → Bindings) (source : List Char) (bindings : Bindings)
    (name : String) : Run Desk String := do
  let compiled ← r.host.compile (.text source) name
  (r.host.script compiled).evaluate lay (evaluate lay r.host ⟨files, r.site, document⟩ r.host.nesting)
    (r.baseVariables document bindings)

end Renderer

end Transclusion

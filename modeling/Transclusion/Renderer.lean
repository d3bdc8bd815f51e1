import Transclusion.Inclusion.Execute
import Transclusion.Template.Compile

/-! Renderers.

A renderer renders the templates of one site. Every render is a pass of its own,
with an empty cache and a scope of its own; what renders share is the desk, with
the notices already announced and the invocations already prepared. A template
sees the site, the page and the variables of the caller, which come first. -/
namespace Transclusion

open Directive Inclusion

structure Renderer where
  site : Site
  registry : Registry
  options : Template.Options

namespace Renderer

/-- The name under which a renderer writes records and announces notices. -/
def tag : String := "site-renderer"

def clerk (r : Renderer) : Clerk := ⟨r.registry, some tag⟩

def host (r : Renderer) : Host Template.Compiled :=
  Template.host r.options r.clerk r.site.config.encoding

/-- What every template sees: the site, the page and the variables of the caller over them. -/
def baseVariables (r : Renderer) (document : Option Document) (bindings : Bindings) : Bindings :=
  let site := Value.ofBindings [("source", .text r.site.source.toString),
    ("config", r.site.config.toValue)]
  let page := Value.dict ((document.map Document.payload).getD [])
  (Bindings.update [("site", site), ("page", page)] bindings).insert Template.passName .pass

def finished {C : Type} (name : String) (c : Cache C) : Record :=
  ⟨.debug, tag, "Rendered \x7bname\x7d", [("name", .text name), ("partials_compiled", .int c.misses),
    ("partial_cache_hits", .int c.hits)]⟩

/-- Renders a source in a pass, which is given. -/
def renderIn (r : Renderer) (setting : Setting) (source : List Char) (bindings : Bindings)
    (name : String) : Run (Pass Template.Compiled) String := do
  let compiled ← Pass.onDesk (r.host.compile (.text source) name)
  let text ← withinSpan tag "render" [("name", .text name)]
    (withinLayer (r.baseVariables setting.document bindings)
      ((r.host.script compiled).play (execute r.host setting)))
  Pass.onDesk (record (finished name (← get).cache))
  pure text

def inFreshPass {C α : Type} (m : Run (Pass C) α) : Run Desk α :=
  .zoom (fun desk => Pass.fresh desk []) (fun p _ => p.desk) m

/-- Renders a source, as a document if one is given. -/
def renderText (r : Renderer) (files : Files) (source : List Char) (bindings : Bindings)
    (document : Option Document) (name : String) : Run Desk String :=
  inFreshPass (r.renderIn ⟨files, r.site, document⟩ source bindings name)

def renderDocument (r : Renderer) (files : Files) (document : Document) (bindings : Bindings) :
    Run Desk String :=
  r.renderText files document.content.toList bindings (some document) document.relativePath

def renderExcerpt (r : Renderer) (files : Files) (document : Document) (bindings : Bindings) :
    Run Desk String := do
  let excerpt ← Run.ofExcept (document.excerpt r.site.config.excerptSeparator)
  r.renderDocument files excerpt bindings

/-- Renders a source without a handle of a pass, over these variables alone. -/
def renderBare (r : Renderer) (source : List Char) (bindings : Bindings) :
    Run (Pass Template.Compiled) String := do
  let compiled ← Pass.onDesk (Template.compileText r.options r.clerk none source)
  (compiled.renderWith r.options r.clerk bindings).play fun invocation =>
    throw (.run (.noPass invocation.tag))

/-- Renders a source outside of any pass. -/
def renderOutside (r : Renderer) (source : List Char) (bindings : Bindings) : Run Desk String :=
  inFreshPass (r.renderBare source bindings)

end Renderer

end Transclusion

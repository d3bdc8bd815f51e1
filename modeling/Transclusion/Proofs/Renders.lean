import Transclusion.Proofs.Memory
import Transclusion.Proofs.Rendering

/-! Renders one after another.

What one render leaves for the next is the desk: the notices shown, and the
invocations remembered. A host owes that whatever it does a desk is such that it
compiles on it as on an empty one (`Host.Ageless`). Then the desk stays such behind any
calls of a renderer, whatever they answered and however they ended (`holds_afterBy`), and
so the next call comes to what it comes to on a desk of its own, with the same hits and
misses of the cache (`runBy_after`). The host of templates owes it of desks that are
backed by its clerk (`ageless_host`, `run_after`). -/
namespace Transclusion

open Directive Inclusion

/-- What a host owes so that renders do not influence one another: it leaves a desk as desks are to be, and on such
a desk it compiles as on one that was empty. -/
structure Inclusion.Host.Ageless {C : Type} (host : Host C) (Holds : Desk → Prop) : Prop where
  reads : host.ReferencesRead
  initial : Holds .empty
  lasting : Lasting host (fun _ => True) fun d e => Holds d → Holds e
  even {past : Desk} : Holds past → host.Even host.compile (Desk.Aged past)

namespace Renderer

/-- A call of a renderer. -/
inductive Call where
  | source (text : List Char) (bindings : Bindings) (page : Option Document) (name : String)
  | document (document : Document) (bindings : Bindings)
  | excerpt (document : Document) (bindings : Bindings)

namespace Call

/-- What a call runs. -/
def run (r : Renderer) (files : Files) : Call → Run Desk String
  | source text bindings page name => r.renderText files text bindings page name
  | document d bindings => r.renderDocument files d bindings
  | excerpt d bindings => r.renderExcerpt files d bindings

/-- What a call runs in its pass. -/
def runIn (r : Renderer) (files : Files) : Call → Run (Pass Template.Compiled) String
  | source text bindings page name => r.renderIn ⟨files, r.site, page⟩ text bindings name
  | document d bindings => r.renderIn ⟨files, r.site, some d⟩ d.content.toList bindings d.relativePath
  | excerpt d bindings => do
    let excerpt ← Run.ofExcept (d.excerpt r.site.config.excerptSeparator)
    r.renderIn ⟨files, r.site, some excerpt⟩ excerpt.content.toList bindings excerpt.relativePath

end Call

variable {C : Type}

/-- Rendering in a pass, with a host in place of the renderer's own. -/
def renderInBy (r : Renderer) (host : Host C) (setting : Setting) (source : List Char) (bindings : Bindings)
    (name : String) : Run (Pass C) String := do
  let compiled ← Pass.onDesk (host.compile (.text source) name)
  let text ← withinSpan tag "render" [("name", .text name)]
    (withinLayer (r.baseVariables setting.document bindings)
      ((host.script compiled).play (execute host setting)))
  Pass.onDesk (record (finished name (← get).cache))
  pure text

namespace Call

/-- What a call runs in its pass, with a host in place of the renderer's own. -/
def runInBy (r : Renderer) (host : Host C) (files : Files) : Call → Run (Pass C) String
  | source text bindings page name => r.renderInBy host ⟨files, r.site, page⟩ text bindings name
  | document d bindings => r.renderInBy host ⟨files, r.site, some d⟩ d.content.toList bindings d.relativePath
  | excerpt d bindings => do
    let excerpt ← Run.ofExcept (d.excerpt r.site.config.excerptSeparator)
    r.renderInBy host ⟨files, r.site, some excerpt⟩ excerpt.content.toList bindings excerpt.relativePath

/-- What a call runs, with a host in place of the renderer's own. -/
def runBy (r : Renderer) (host : Host C) (files : Files) (call : Call) : Run Desk String :=
  inFreshPass (call.runInBy r host files)

/-- A call runs in a fresh pass, and leaves its desk. -/
theorem start_runBy (r : Renderer) (host : Host C) (files : Files) (call : Call) (desk : Desk) :
    (call.runBy r host files).start desk = (((call.runInBy r host files).start (.fresh desk [])).1,
      ((call.runInBy r host files).start (.fresh desk [])).2.desk) := rfl

theorem runIn_eq (r : Renderer) (files : Files) (call : Call) :
    call.runIn r files = call.runInBy r r.host files := by
  cases call <;> rfl

theorem run_eq (r : Renderer) (files : Files) (call : Call) : call.run r files = call.runBy r r.host files := by
  cases call with
  | source text bindings page name => rfl
  | document d bindings => rfl
  | excerpt d bindings =>
    funext desk
    show ((excerpt d bindings).run r files).start desk = ((excerpt d bindings).runBy r r.host files).start desk
    rw [start_runBy, ← runIn_eq]
    simp only [run, runIn, renderExcerpt, Run.start_bind, Run.start_ofExcept]
    cases d.excerpt r.site.config.excerptSeparator <;> rfl

end Call

/-- The desk of a renderer behind calls, each on the files that there were, whatever it ended with. -/
def after (r : Renderer) (history : List (Files × Call)) : Desk :=
  history.foldl (fun desk (files, call) => ((call.run r files).start desk).2) .empty

/-- The desk behind calls, with a host in place of the renderer's own. -/
def afterBy (r : Renderer) (host : Host C) (history : List (Files × Call)) : Desk :=
  history.foldl (fun desk (files, call) => ((call.runBy r host files).start desk).2) .empty

theorem after_eq (r : Renderer) (history : List (Files × Call)) : r.after history = r.afterBy r.host history := by
  simp only [after, afterBy, Call.run_eq]

variable (r : Renderer) {host : Host C}

/-! ### What calls keep -/

section
variable {G : Desk → Desk → Prop} (hreads : host.ReferencesRead) (hG : Lasting host (fun _ => True) G)
include hreads hG

theorem keeps_renderInBy (setting : Setting) (source : List Char) (bindings : Bindings) (name : String) :
    (r.renderInBy host setting source bindings name).Keeps (Pass.Within G) := by
  have hexecute (invocation : Invocation) :=
    (around_executeWith setting hreads hG host.nesting invocation).mono fun _ _ => Pass.Around.within
  refine .bind hG.within_trans ?_ fun compiled => .bind hG.within_trans (fun p => ?_) fun text => ?_
  · exact (Pass.around_onDesk (hG.compile _ _)).mono fun _ _ => Pass.Around.within
  · exact (around_withinSpan hG (fun _ => trivial) (around_withinLayer (within_play hG hexecute _ _))).within
  · exact .look fun p => (hG.around_add p trivial).within

theorem keeps_runBy (files : Files) (call : Call) : (call.runBy r host files).Keeps G := by
  intro desk
  have hrender (setting : Setting) (source : List Char) (bindings : Bindings) (name : String) :=
    (r.keeps_renderInBy hreads hG setting source bindings name (.fresh desk [])).desk
  rw [Call.start_runBy]
  cases call with
  | source text bindings page name => exact hrender ..
  | document d bindings => exact hrender ..
  | excerpt d bindings =>
    simp only [Call.runInBy, Run.start_bind, Run.start_ofExcept]
    cases d.excerpt r.site.config.excerptSeparator with
    | error fault => exact hG.refl desk
    | ok excerpt => exact hrender ..

end

/-- Behind any calls the desk is as desks are to be. -/
theorem holds_afterBy {Holds : Desk → Prop} (hageless : host.Ageless Holds) (history : List (Files × Call)) :
    Holds (r.afterBy host history) := by
  have hfold (desk : Desk) (h : Holds desk) :
      Holds (history.foldl (fun desk (files, call) => ((call.runBy r host files).start desk).2) desk) := by
    induction history generalizing desk with
    | nil => exact h
    | cons first rest ih => exact ih _ (r.keeps_runBy hageless.reads hageless.lasting first.1 first.2 desk h)
  exact hfold .empty hageless.initial

/-! ### Calls side by side -/

section
variable {compile' : Source → String → Run Desk C} {R : Desk → Desk → Prop} (heven : host.Even compile' R)
include heven

theorem level_renderInBy (setting : Setting) (source : List Char) (bindings : Bindings) (name : String) :
    Run.Agree (Pass.Level R) (r.renderInBy host setting source bindings name)
      (r.renderInBy (host.compilingBy compile') setting source bindings name) := by
  have hstep := level_lockstep heven setting
  refine .bind (level_onDesk (heven.compile _ _)) fun compiled => ?_
  refine .bind (lockstep_between hstep rfl rfl (lockstep_withinLayer hstep.toInStep
    (lockstep_play hstep.toInStep (level_executeWith heven setting host.nesting) _))) fun text => ?_
  intro p q hp
  show _ ∧ Pass.Level R (p.add (.record (finished name p.cache))) (q.add (.record (finished name q.cache)))
  rw [hp.cache]
  exact ⟨rfl, hp.scope, hp.cache, (heven.note _ rfl _ _ hp.desk).2⟩

theorem level_runInBy (files : Files) (call : Call) :
    Run.Agree (Pass.Level R) (call.runInBy r host files) (call.runInBy r (host.compilingBy compile') files) := by
  cases call with
  | source text bindings page name => exact r.level_renderInBy heven _ _ _ _
  | document d bindings => exact r.level_renderInBy heven _ _ _ _
  | excerpt d bindings => exact .bind (.ofExcept _) fun excerpt => r.level_renderInBy heven _ _ _ _

end

/-- Behind any calls with a host that owes what it is to, the next one comes to the text or to the fault that it
comes to on a desk of its own, and takes the same from the cache of its pass; of what it writes only notices may be
missing that have been shown. -/
theorem runBy_after {Holds : Desk → Prop} (hageless : host.Ageless Holds) (files : Files)
    (history : List (Files × Call)) (call : Call) :
    let past := r.afterBy host history
    let pass := fun desk => (call.runInBy r host files).start (.fresh desk [])
    (∀ desk, (call.runBy r host files).start desk = ((pass desk).1, (pass desk).2.desk)) ∧
    (pass past).1 = (pass .empty).1 ∧
    (pass past).2.cache = (pass .empty).2.cache ∧
    ∃ added, (pass past).2.desk.trace = past.trace ++ added ∧
      Trace.Spares past.notices.shown added (pass .empty).2.desk.trace := by
  intro past pass
  have hfresh : Pass.Level (Desk.Aged past) (.fresh past [] : Pass C) (.fresh .empty []) :=
    ⟨rfl, rfl, Desk.aged_empty past⟩
  have heven := hageless.even (r.holds_afterBy hageless history)
  obtain ⟨houtcome, hlevel⟩ := r.level_runInBy heven files call _ _ hfresh
  exact ⟨fun _ => rfl, houtcome, hlevel.cache, hlevel.desk.trace⟩

/-! ### The host of templates -/

theorem lasting_backed : Lasting r.host (fun _ => True) fun d e => r.clerk.Backed d → r.clerk.Backed e where
  refl _ h := h
  trans _ _ _ h h' hd := h' (h hd)
  add _ _ h := h.add _
  compile := Template.keeps_compile (fun _ h => h) (fun _ _ _ h h' hd => h' (h hd)) Clerk.keeps_backed _ _

/-- A renderer owes its clerk backed desks. -/
theorem ageless_host : r.host.Ageless r.clerk.Backed where
  reads := Template.host_referencesRead r.clerk r.options r.site.config.encoding
  initial := Clerk.backed_empty r.clerk
  lasting := r.lasting_backed
  even hpast := {
    note event _ _ _ h := ⟨rfl, h.add event⟩
    compile := Template.agree_compile (Clerk.agree_remembered_aged hpast) _ _ }

variable (files : Files)

/-- Renders do not influence one another. Whatever calls there have been, on whatever files, and however they
ended, the next call comes to the text or to the fault that it comes to on a desk of its own, and takes the same
from the cache of its pass; of what it writes only notices may be missing that have been shown. What is remembered
is what would be prepared now, so that nothing is remembered of a directive that cannot be prepared. -/
theorem run_after (history : List (Files × Call)) (call : Call) :
    let past := r.after history
    let pass := fun desk => (call.runIn r files).start (.fresh desk [])
    (∀ desk, (call.run r files).start desk = ((pass desk).1, (pass desk).2.desk)) ∧
    (pass past).1 = (pass .empty).1 ∧
    (pass past).2.cache = (pass .empty).2.cache ∧
    (∃ added, (pass past).2.desk.trace = past.trace ++ added ∧
      Trace.Spares past.notices.shown added (pass .empty).2.desk.trace) ∧
    ∀ tag markup invocation, past.memo.lookup (tag, String.ofList markup) = some invocation →
      ∀ desk, ((r.clerk.prepare tag markup).start desk).1 = .ok invocation := by
  rw [r.after_eq history, Call.runIn_eq, Call.run_eq]
  intro past pass
  obtain ⟨hstart, houtcome, hcache, htrace⟩ := r.runBy_after r.ageless_host files history call
  refine ⟨hstart, houtcome, hcache, htrace, fun tag markup invocation hmemo desk => ?_⟩
  rw [Clerk.start_prepare]
  exact (r.holds_afterBy r.ageless_host history).prepared hmemo

end Renderer

end Transclusion

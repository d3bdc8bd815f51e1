import Transclusion.Proofs.Stages
import Transclusion.Proofs.Templates

/-! The layers of a pass.

Directives nest, and each pushes a layer for its partial; one that stands in a
template is given a further layer of what is visible at its place. All of them
are gone when the directive ends, whether it ends with a text or with a fault of
any stage, its own or that of a directive within. While its partial starts there
is one layer more than before, and nothing in it but the arguments; and no
directive ends with a text whose partial has not started. -/
namespace Transclusion.Inclusion
open Directive

variable {C : Type}

/-! ### Starting the partial -/

/-- From one desk to another the trace has grown, and of the open directive a partial was started. -/
def Desk.Started (d e : Desk) : Prop :=
  ∃ path scope t, Trace.Grows (·.isPlain) d.trace t ∧ Trace.Grows (·.isPlain) (t ++ [.start path scope]) e.trace

namespace Desk.Started

variable {d e f : Desk}

theorem before (h : Desk.Grown (·.isPlain) d e) (h' : Started e f) : Started d f := by
  obtain ⟨path, scope, t, hbefore, hafter⟩ := h'
  exact ⟨path, scope, t, Trace.Grows.trans h hbefore, hafter⟩

theorem behind (h : Started d e) (h' : Desk.Grown (·.isPlain) e f) : Started d f := by
  obtain ⟨path, scope, t, hbefore, hafter⟩ := h
  exact ⟨path, scope, t, hbefore, hafter.trans h'⟩

end Desk.Started

section
variable {host : Host C} (hquiet : host.Quiet) {inclusion : Invocation → Run (Pass C) String}
  (hinclusion : ∀ invocation, (inclusion invocation).Keeps (Pass.Within (Desk.Grown (·.isPlain))))
include hquiet hinclusion

/-- Whatever the partial ends with, it was started. -/
theorem started_runPartial (compiled : C) (path : Path) :
    (runPartial host inclusion compiled path).Keeps (Pass.Within Desk.Started) := by
  intro p
  have lasting := lasting_grown hquiet (fun _ h => h) fun _ => rfl
  have hafter := within_started lasting hinclusion (fun _ => rfl) compiled path p
  exact ⟨hafter.outer, path, p.scope, p.desk.trace, .refl _, hafter.desk⟩

theorem started_running (tag operation : String) (particulars : Bindings) (arguments : Option Bindings)
    (compiled : C) (path : Path) :
    (withinSpan tag operation particulars
      (withinLayer [] (runWith host inclusion arguments compiled path))).Keeps
        fun p q => Desk.Started p.desk q.desk := by
  intro p
  have lasting := lasting_grown hquiet (fun _ h => h) fun _ => rfl
  let q := p.add (.record (.opening tag operation particulars))
  have inner : Pass.Around Desk.Started q
      ((withinLayer [] (runWith host inclusion arguments compiled path)).start q).2 := by
    refine around_withinLayer ?_
    cases arguments with
    | none => exact started_runPartial hquiet hinclusion compiled path _
    | some values =>
      -- The arguments are bound in the layer of the partial, and the desk stays.
      let r := { q with scope := q.scope.push [(argumentsName, .ofBindings values)] }
      have run := started_runPartial hquiet hinclusion compiled path r
      exact ⟨run.outer, run.desk⟩
  exact (inner.desk.before (lasting.add _ rfl)).behind (lasting.add _ rfl)

/-- Nothing but the partial gives a directive its text. -/
theorem reaches_stages (setting : Setting) (invocation : Invocation) :
    (stages host setting (fetch host setting.files) inclusion invocation).Reaches
      fun p q => Desk.Started p.desk q.desk := by
  have lasting := lasting_grown hquiet (fun _ h => h) fun _ => rfl
  have evaluating := within_effectiveReference lasting hinclusion (fun _ => rfl) invocation
  refine .behind (fun _ _ _ h h' => h'.before h.desk) evaluating fun reference => ?_
  have finding := Pass.around_onDesk (C := C) (keeps_findPartial lasting setting invocation reference
    (fun _ _ => rfl) (fun _ => rfl) fun _ _ => rfl)
  refine .behind (fun _ _ _ h h' => h'.before h.desk) finding fun path => ?_
  have fetching := Pass.around_onStore
    (keeps_fetch lasting setting.files path (fun _ _ => rfl) (fun _ => rfl) rfl)
  refine .behind (fun _ _ _ h h' => h'.before h.desk) fetching fun compiled => ?_
  refine .behind (fun _ _ _ h h' => h'.before h.desk) (around_evaluateArguments lasting invocation)
    fun arguments => ?_
  exact (started_running hquiet hinclusion _ _ _ arguments compiled path).reaches

end

/-- A directive that ends with a text has started its partial. -/
theorem executeWith_started {host : Host C} (hquiet : host.Quiet) (setting : Setting) (depth : Nat)
    (invocation : Invocation) (p : Pass C) {text : String}
    (h : ((executeWith host setting (fetch host setting.files) depth invocation).start p).1 = .ok text) :
    ∃ path scope, .start path scope ∈ Trace.own 0 (Trace.since p.desk.trace
      ((executeWith host setting (fetch host setting.files) depth invocation).start p).2.desk.trace) := by
  cases depth with
  | zero => simp [executeWith] at h
  | succ depth =>
    have inner := within_executeWith setting hquiet depth (·.isPlain)
    have reached := reaches_stages hquiet inner setting invocation (p.add (.enter invocation.tag))
    obtain ⟨path, scope, t, hbefore, hafter⟩ := reached text _ (Prod.ext h rfl)
    exact ⟨path, scope, Trace.mem_own_since rfl hbefore hafter⟩

/-! ### The layers -/

/-- At any depth of nesting a directive leaves the layers of the scope as they were, within a layer for its
place or without one. Its partial is started in one more layer, which is empty or holds the arguments, and it
is started if the directive ends with a text. -/
theorem executeWith_layers {host : Host C} (hread : host.ReferencesRead) (setting : Setting) (depth : Nat)
    (invocation : Invocation) (p : Pass C) :
    let directive := executeWith host setting (fetch host setting.files) depth invocation
    let own := Trace.own 0 (Trace.since p.desk.trace (directive.start p).2.desk.trace)
    (directive.start p).2.scope.layers = p.scope.layers ∧
    (∀ frame, ((withinLayer frame directive).start p).2.scope.layers = p.scope.layers) ∧
    (host.Quiet →
      (∀ path scope, .start path scope ∈ own → ∃ layer, scope.layers = layer :: p.scope.layers ∧
        (layer = [] ∨ ∃ arguments, layer = [("include", arguments)])) ∧
      ∀ text, (directive.start p).1 = .ok text → ∃ path scope, .start path scope ∈ own) := by
  intro directive own
  have keeps := around_executeWith setting hread (lasting_any host) depth invocation
  refine ⟨congrArg Scope.layers (keeps p).scope, fun frame => ?_, fun hquiet => ⟨?_, fun text htext => ?_⟩⟩
  · have within := (keeps { p with scope := p.scope.push frame }).within
    exact congrArg Scope.layers (around_withinLayer within).scope
  · intro path scope hstart
    cases depth with
    | zero =>
      -- Nothing happens where inclusions nest too deep.
      have hnone : own = Trace.own 0 (Trace.since p.desk.trace p.desk.trace) := rfl
      rw [hnone, Trace.since, List.drop_length] at hstart
      simp [Trace.own] at hstart
    | succ depth =>
      have hown := executeWith_own setting hquiet depth invocation p _ hstart
      have hscope := scope_effectiveReference hread (lasting_any host)
        (around_executeWith setting hread (lasting_any host) depth) invocation (p.add (.enter invocation.tag))
      cases hown with
      | @start _ _ layer _ _ hlayer =>
        refine ⟨layer, ?_, hlayer⟩
        rw [Scope.layers_push, hscope]
        rfl
  · exact executeWith_started hquiet setting depth invocation p htext

/-- Over two layers a directive whose reference is a template leaves these two, and its partial is started
over three. -/
theorem executeWith_layers_template :
    let host := Template.host .standard ⟨.empty, none⟩ "utf-8"
    let site : Site := ⟨⟨.ofString "/site", ["_includes"], [], "", "utf-8", "\n\n", []⟩⟩
    let files : Files := .ofNodes [(["nav.html".toList], .file [])]
    let invocation : Invocation :=
      ⟨"include_file", .of "\x7b\x7b name \x7d\x7d title=name".toList, .fixed ["/"]⟩
    let p : Pass Template.Compiled :=
      ⟨⟨[[("name", .text "nav.html")]], [("name", .text "head.html")]⟩, ⟨.empty, .empty⟩⟩
    let final := ((execute host ⟨files, site, none⟩ invocation).start p).2
    final.scope.layers = [[("name", .text "nav.html")], [("name", .text "head.html")]] ∧
    ∃ path scope, .start path scope ∈ Trace.own 0 (Trace.since [] final.desk.trace) ∧ scope.depth = 3 := by
  intro host site files invocation p final
  have reads : host.ReferencesRead := Template.host_referencesRead _ _ _
  have quiet : host.Quiet := Template.host_quiet _ _ _
  have htext : ((execute host ⟨files, site, none⟩ invocation).start p).1 = .ok "" :=
    Result.eq_ok_of_toOption (by decide +kernel)
  obtain ⟨hkept, -, hstarted⟩ := executeWith_layers reads ⟨files, site, none⟩ nestingLimit invocation p
  obtain ⟨path, scope, hstart⟩ := (hstarted quiet).2 "" htext
  obtain ⟨layer, hlayers, -⟩ := (hstarted quiet).1 path scope hstart
  refine ⟨hkept, path, scope, hstart, ?_⟩
  rw [← Scope.length_layers, hlayers]
  rfl

end Transclusion.Inclusion

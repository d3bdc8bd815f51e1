import Transclusion.Proofs.Rendering

/-! Passes that compile anew.

A pass that keeps what it compiles runs beside one that reads and compiles the
located file at every inclusion. The two are twins (`Pass.Twin`): they are in the
same scope, and the cache of the first is sound beside the desk of the second,
where more has been read and compiled. Twins are in lockstep, and so a directive at
any depth comes to the same on both and leaves twins (`twin_executeWith`). -/
namespace Transclusion.Inclusion
open Directive

variable {C α : Type}

/-- A pass whose cache is sound beside a pass in the same scope. -/
structure Pass.Twin (host : Host C) (same : Desk → Desk → Prop) (files : Files) (p q : Pass C) : Prop where
  scope : p.scope = q.scope
  store : p.store.Backs host same files q.desk

section
variable {host : Host C} {same : Desk → Desk → Prop} {files : Files}

/-! ### Twins in lockstep -/

theorem twin_inStep : Pass.InStep (Pass.Twin host same files) where
  scope h := h.scope
  put _ h := ⟨rfl, h.store⟩

theorem twin_onScope (f : Scope → Scope) :
    Run.Agree (Pass.Twin host same files) (Pass.onScope f) (Pass.onScope f) := lockstep_onScope twin_inStep f

theorem twin_play {inclusion inclusion' : Invocation → Run (Pass C) String}
    (hinclusion : ∀ invocation, Run.Agree (Pass.Twin host same files) (inclusion invocation)
      (inclusion' invocation)) (script : Script α) :
    Run.Agree (Pass.Twin host same files) (script.play inclusion) (script.play inclusion') :=
  lockstep_play twin_inStep hinclusion script

variable (hsteady : host.Steady same)
include hsteady

theorem twin_onDesk {m : Run Desk α} (hm : m.Agree same m) (hkeeps : m.Keeps same) :
    Run.Agree (Pass.Twin host same files) (Pass.onDesk m) (Pass.onDesk m) := by
  intro p q hp
  obtain ⟨houtcome, hdesk⟩ := hm _ _ hp.store.desk
  exact ⟨houtcome, hp.scope, hdesk, hp.store.sound.along hsteady (hkeeps q.desk)⟩

theorem twin_lockstep (setting : Setting) :
    host.Lockstep host.compile setting (Pass.Twin host same files) where
  toInStep := twin_inStep
  note event hevent := twin_onDesk hsteady (hsteady.even.note event hevent) (hsteady.lasting.note trivial)
  compile source name := twin_onDesk hsteady
    (.bind (hsteady.even.note _ rfl) fun _ => hsteady.compile source name)
    (hsteady.lasting.bind (hsteady.lasting.note trivial) fun _ => hsteady.lasting.compile source name)
  find invocation reference := twin_onDesk hsteady (hsteady.even.findPartial setting invocation reference)
    (same_findPartial hsteady setting invocation reference)

/-- What comes from the cache of one is what the other compiles anew. -/
theorem twin_fetch (path : Path) :
    Run.Agree (Pass.Twin host same files) (Pass.onStore (fetch host files path))
      (Pass.onStore (Store.onDesk (fetchAnew host files path))) := by
  intro p q hp
  obtain ⟨houtcome, hbacks⟩ := agree_fetch_anew hsteady path p.store q.desk hp.store
  exact ⟨houtcome, hp.scope, hbacks⟩

/-- At any depth a directive comes to the same in both, and leaves twins. -/
theorem twin_executeWith (setting : Setting) (depth : Nat) (invocation : Invocation) :
    Run.Agree (Pass.Twin host same setting.files)
      (executeWith host setting (fetch host setting.files) depth invocation)
      (executeWith host setting (fun path => Store.onDesk (fetchAnew host setting.files path)) depth
        invocation) :=
  lockstep_executeWith (twin_lockstep hsteady setting) (twin_fetch hsteady) depth invocation

end

/-! ### Directives one after another -/

/-- A directive of a pass, and what has been done to the scope since the last one. -/
structure Turn where
  change : Scope → Scope
  invocation : Invocation

/-- What directives come to one after another; the pass goes on however each of them ends. -/
def outcomes (execution : Invocation → Run (Pass C) String) : List Turn → Pass C → List (Except Fault String)
  | [], _ => []
  | turn :: rest, p =>
    let (outcome, after) := (execution turn.invocation).start { p with scope := turn.change p.scope }
    outcome :: outcomes execution rest after

theorem outcomes_eq {R : Pass C → Pass C → Prop} {execution execution' : Invocation → Run (Pass C) String}
    (hexecution : ∀ invocation, Run.Agree R (execution invocation) (execution' invocation))
    (hscope : ∀ f, Run.Agree R (Pass.onScope f) (Pass.onScope f)) (turns : List Turn) {p q : Pass C}
    (h : R p q) : outcomes execution turns p = outcomes execution' turns q := by
  induction turns generalizing p q with
  | nil => rfl
  | cons turn rest ih =>
    obtain ⟨houtcome, hafter⟩ := hexecution turn.invocation _ _ (hscope turn.change p q h).2
    exact List.cons_eq_cons.2 ⟨houtcome, ih hafter⟩

/-- A cache makes no difference to what comes of a pass. Whatever directives are executed in it, and whatever
is done to the scope between them, each of them comes to the text or to the fault that it comes to where every
partial is read and compiled anew at every inclusion; and so does a script with all that it includes. -/
theorem outcomes_eq_anew {host : Host C} {same : Desk → Desk → Prop} (hsteady : host.Steady same)
    (setting : Setting) (depth : Nat) (scope : Scope) (desk : Desk) :
    let keeping := executeWith host setting (fetch host setting.files) depth
    let anew := executeWith host setting (fun path => Store.onDesk (fetchAnew host setting.files path)) depth
    let p : Pass C := ⟨scope, ⟨.empty, desk⟩⟩
    (∀ turns, outcomes keeping turns p = outcomes anew turns p) ∧
      ∀ script : Script String, ((script.play keeping).start p).1 = ((script.play anew).start p).1 := by
  intro keeping anew p
  have hexecution := twin_executeWith hsteady setting depth
  have hp : Pass.Twin host same setting.files p p :=
    ⟨rfl, hsteady.lasting.refl desk, Cache.sound_empty _ _ _ _⟩
  exact ⟨fun turns => outcomes_eq hexecution twin_onScope turns hp,
    fun script => (twin_play hexecution script p p hp).1⟩

/-- Of three directives the second finds no file, and the first and the last include the same one. -/
theorem outcomes_eq_anew_template :
    let host := Template.host .standard ⟨.empty, none⟩ "utf-8"
    let site : Site := ⟨⟨.ofString "/site", ["_includes"], [], "", "utf-8", "\n\n", []⟩⟩
    let setting : Setting := ⟨.ofNodes [(["nav.html".toList], .file [72, 105])], site, none⟩
    let turn := fun (markup : String) =>
      (⟨id, "include_file", .of markup.toList, .fixed ["/"]⟩ : Turn)
    let turns := [turn "nav.html", turn "foot.html", turn "nav.html"]
    let p : Pass Template.Compiled := ⟨.ofBindings [], ⟨.empty, .empty⟩⟩
    outcomes (execute host setting) turns p = outcomes (executeAnew host setting) turns p ∧
      (outcomes (execute host setting) turns p).map Except.toOption = [some "Hi", none, some "Hi"] := by
  intro host site setting turn turns p
  have hsteady : host.Steady _ := (Template.host_plain .standard ⟨.empty, none⟩ "utf-8").steady
  exact ⟨(outcomes_eq_anew hsteady setting nestingLimit (.ofBindings []) .empty).1 turns, by decide +kernel⟩

end Transclusion.Inclusion

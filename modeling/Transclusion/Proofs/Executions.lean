import Transclusion.Inclusion.Execute
import Transclusion.Proofs.Runs
import Transclusion.Proofs.Traces

/-! What an execution leaves behind.

A directive leaves the scope as it found it: the layers that it pushes are popped
however it ends, and a partial, which may bind names, does so in the innermost
layer alone. What it leaves on the desk is followed by a relation between desks
that lasts while a host compiles and while certain events are added (`Lasting`).
Two such relations matter: the one that says nothing, and the growth of the trace
by events of which the own ones are of a certain kind (`Desk.Grown`), which lasts
if compiling writes records only. -/
namespace Transclusion.Inclusion
open Directive

variable {C α : Type} {G : Desk → Desk → Prop} {P : Event → Prop}

/-! ### What is asked of a host -/

/-- A script that reads the scope and includes partials, and binds nothing. -/
inductive Script.ReadsOnly : Script α → Prop
  | done (a : α) : ReadsOnly (.done a)
  | fail (fault : Fault) : ReadsOnly (.fail fault)
  | look {next : Scope → Script α} : (∀ scope, ReadsOnly (next scope)) → ReadsOnly (.look next)
  | call {invocation : Invocation} {frame : Option Bindings} {next : String → Script α} :
      (∀ text, ReadsOnly (next text)) → ReadsOnly (.call invocation frame next)

/-- A templated reference, once compiled, reads the scope only. -/
def Host.ReferencesRead (host : Host C) : Prop :=
  ∀ text desk compiled, ((host.compile (.text text) referenceName).start desk).1 = .ok compiled →
    (host.script compiled).ReadsOnly

/-- Events are added to the trace, records only. -/
def Desk.Recorded (before after : Desk) : Prop :=
  ∃ records : List Record, after.trace = before.trace ++ records.map .record

/-- Compiling writes records and no other events. -/
def Host.Quiet (host : Host C) : Prop :=
  ∀ source name, (host.compile source name).Keeps Desk.Recorded

/-! ### Relations between desks -/

/-- A relation between the desks before and behind that lasts while a host compiles and while events
that satisfy `P` are added. -/
structure Lasting (host : Host C) (P : Event → Prop) (G : Desk → Desk → Prop) : Prop where
  refl (d : Desk) : G d d
  trans ⦃d e f : Desk⦄ : G d e → G e f → G d f
  add {event : Event} (d : Desk) : P event → G d (d.add event)
  compile (source : Source) (name : String) : (host.compile source name).Keeps G

/-- With fewer events a relation lasts all the more. -/
theorem Lasting.mono {host : Host C} {Q : Event → Prop} (hG : Lasting host Q G)
    (h : ∀ event, P event → Q event) : Lasting host P G :=
  ⟨hG.refl, hG.trans, fun d hP => hG.add d (h _ hP), hG.compile⟩

/-- The relation that says nothing. -/
theorem lasting_any (host : Host C) : Lasting host (fun _ => True) fun _ _ => True :=
  ⟨fun _ => trivial, fun _ _ _ _ _ => trivial, fun _ _ => trivial, fun _ _ _ => trivial⟩

/-- The trace of a desk has grown by events of which the own ones satisfy `P`. -/
def Desk.Grown (P : Event → Prop) (before after : Desk) : Prop := Trace.Grows P before.trace after.trace

theorem Desk.Recorded.grown (hrecord : ∀ r, P (.record r)) {d e : Desk} (h : Desk.Recorded d e) :
    Desk.Grown P d e := by
  obtain ⟨records, he⟩ := h
  unfold Desk.Grown
  rw [he]
  clear he
  induction records generalizing d with
  | nil => simpa using Trace.Grows.refl (P := P) d.trace
  | cons r rest ih =>
    have hone : Trace.Grows P d.trace (d.add (.record r)).trace := .plain rfl (hrecord r)
    have := hone.trans ih
    simpa [Desk.add] using this

/-- Growth lasts if compiling writes records only. -/
theorem lasting_grown {host : Host C} (hquiet : host.Quiet) (hplain : ∀ event, P event → event.isPlain = true)
    (hrecord : ∀ r, P (.record r)) : Lasting host P (Desk.Grown P) where
  refl _ := Trace.Grows.refl _
  trans _ _ _ h h' := Trace.Grows.trans h h'
  add _ h := Trace.Grows.plain (hplain _ h) h
  compile source name d := (hquiet source name d).grown hrecord

/-! ### Passes whose scope stays -/

namespace Pass

/-- From one pass to another the scope has stayed, and the desks are related. -/
structure Around (G : Desk → Desk → Prop) (p q : Pass C) : Prop where
  scope : q.scope = p.scope
  desk : G p.desk q.desk

/-- From one pass to another only the innermost layer may have changed, and the desks are related. -/
structure Within (G : Desk → Desk → Prop) (p q : Pass C) : Prop where
  outer : q.scope.outer = p.scope.outer
  desk : G p.desk q.desk

variable {p q r : Pass C}

theorem Around.trans (trans : ∀ ⦃d e f⦄, G d e → G e f → G d f) (h : Around G p q) (h' : Around G q r) :
    Around G p r := ⟨h'.scope.trans h.scope, trans h.desk h'.desk⟩

theorem Around.within (h : Around G p q) : Within G p q := ⟨congrArg Scope.outer h.scope, h.desk⟩

theorem Within.trans (trans : ∀ ⦃d e f⦄, G d e → G e f → G d f) (h : Within G p q) (h' : Within G q r) :
    Within G p r := ⟨h'.outer.trans h.outer, trans h.desk h'.desk⟩

theorem start_onDesk (m : Run Desk α) (p : Pass C) :
    (onDesk m).start p =
      ((m.start p.desk).1, { p with store := { p.store with desk := (m.start p.desk).2 } }) := rfl

theorem around_onStore {m : Run (Store C) α} (hm : m.Keeps fun s t => G s.desk t.desk) :
    (onStore m).Keeps (Around G) := fun p => ⟨rfl, hm p.store⟩

theorem around_onDesk {m : Run Desk α} (hm : m.Keeps G) : (onDesk m : Run (Pass C) α).Keeps (Around G) :=
  fun p => ⟨rfl, hm p.desk⟩

/-- Popping the layer that was pushed on a scope gives that scope back. -/
theorem leaveLayer_of_outer (h : q.scope.outer = p.scope.layers) :
    q.leaveLayer = .ok { q with scope := p.scope } := by
  simp only [leaveLayer, Scope.pop, Scope.pop?_of_outer h, Except.map]

end Pass

/-- Within a layer of its own a run may change that layer; outside the scope stays. -/
theorem around_withinLayer {bindings : Bindings} {m : Run (Pass C) α} {p : Pass C}
    (h : Pass.Within G { p with scope := p.scope.push bindings }
      (m.start { p with scope := p.scope.push bindings }).2) :
    Pass.Around G p ((withinLayer bindings m).start p).2 := by
  have hl := Pass.leaveLayer_of_outer (p := p) h.outer
  show Pass.Around G p ((m.finallyDo Pass.leaveLayer).start { p with scope := p.scope.push bindings }).2
  rw [Run.start_finallyDo, hl]
  exact ⟨rfl, h.desk⟩

/-- A directive within another adds nothing of the other's own. -/
theorem within_withinDirective {Q : Event → Prop} {tag : String} {m : Run (Pass C) α} {p : Pass C}
    (h : Pass.Within (Desk.Grown Q) (p.add (.enter tag)) (m.start (p.add (.enter tag))).2) :
    Pass.Within (Desk.Grown P) p ((withinDirective tag m).start p).2 := ⟨h.outer, h.desk.directive⟩

section
variable {host : Host C} (hG : Lasting host P G)
include hG

theorem Lasting.around_refl (p : Pass C) : Pass.Around G p p := ⟨rfl, hG.refl _⟩

theorem Lasting.within_refl (p : Pass C) : Pass.Within G p p := ⟨rfl, hG.refl _⟩

theorem Lasting.around_trans ⦃p q r : Pass C⦄ : Pass.Around G p q → Pass.Around G q r → Pass.Around G p r :=
  Pass.Around.trans hG.trans

theorem Lasting.within_trans ⦃p q r : Pass C⦄ : Pass.Within G p q → Pass.Within G q r → Pass.Within G p r :=
  Pass.Within.trans hG.trans

theorem Lasting.around_add (p : Pass C) {event : Event} (h : P event) : Pass.Around G p (p.add event) :=
  ⟨rfl, hG.add _ h⟩

theorem Lasting.note {event : Event} (h : P event) : (note event).Keeps G := fun d => hG.add d h

/-- Runs that keep the relation one after the other. -/
theorem Lasting.bind {β : Type} {m : Run Desk α} {f : α → Run Desk β} (hm : m.Keeps G)
    (hf : ∀ a, (f a).Keeps G) : (m >>= f).Keeps G := .bind hG.trans hm hf

theorem around_withinSpan (hrecord : ∀ r, P (.record r)) {tag operation : String} {particulars : Bindings}
    {m : Run (Pass C) α} {p : Pass C}
    (h : Pass.Around G (p.add (.record (.opening tag operation particulars)))
      (m.start (p.add (.record (.opening tag operation particulars)))).2) :
    Pass.Around G p ((withinSpan tag operation particulars m).start p).2 :=
  hG.around_trans (hG.around_trans (hG.around_add p (hrecord _)) h) (hG.around_add _ (hrecord _))

variable {inclusion : Invocation → Run (Pass C) String}

/-- A script changes the innermost layer at most, if inclusions do. -/
theorem within_play (hinclusion : ∀ invocation, (inclusion invocation).Keeps (Pass.Within G))
    (script : Script α) : (script.play inclusion).Keeps (Pass.Within G) := by
  induction script with
  | done a => exact .pure hG.within_refl a
  | fail fault => exact .throw hG.within_refl fault
  | look next ih => exact .look fun p => ih p.scope p
  | bind_ name value next ih =>
    -- The name is bound in the innermost layer, which the relation leaves out.
    intro p
    have h := ih { p with scope := p.scope.set name value }
    exact ⟨h.outer.trans (Scope.outer_set ..), h.desk⟩
  | call invocation frame next ih =>
    cases frame with
    | none => exact .bind hG.within_trans (hinclusion invocation) ih
    | some frame =>
      exact .bind hG.within_trans (fun _ => (around_withinLayer (hinclusion invocation _)).within) ih

/-- A script that binds nothing leaves the scope alone, if inclusions do. -/
theorem around_play (hinclusion : ∀ invocation, (inclusion invocation).Keeps (Pass.Around G))
    {script : Script α} (hscript : script.ReadsOnly) : (script.play inclusion).Keeps (Pass.Around G) := by
  induction hscript with
  | done a => exact .pure hG.around_refl a
  | fail fault => exact .throw hG.around_refl fault
  | look _ ih => exact .look fun p => ih p.scope p
  | @call invocation frame next _ ih =>
    cases frame with
    | none => exact .bind hG.around_trans (hinclusion invocation) ih
    | some frame =>
      have inner := (hinclusion invocation).mono fun _ _ => Pass.Around.within
      exact .bind hG.around_trans (fun _ => around_withinLayer (inner _)) ih

end

end Transclusion.Inclusion

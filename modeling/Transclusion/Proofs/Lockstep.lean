import Transclusion.Proofs.Stages

/-! Passes in lockstep.

Two passes run the same directives in the same scope, each with a cache, a desk
and a compiler of its own. What they compile and note may depend on these, and so
may what they fetch. If it comes to the same on both sides and leaves them related,
then so does every stage of a directive, if the inclusions within it do, and so does
a directive at any depth (`lockstep_executeWith`). Scripts are not restricted: they
may bind names, and read how their scope is layered. Of the events only those need
to leave the passes related that a stage may note (`Event.isRoutine`). -/
namespace Transclusion
open Directive

/-- Whether a record is a notice. -/
def Record.isNotice (r : Record) : Bool := r.level == .warn && r.wording == Notices.wording

/-- Whether an event may be noted by a stage of a directive: no stage shows a notice, or writes a record for
information. -/
def Event.isRoutine : Event → Bool
  | .record r => !(r.isNotice || r.level == .info)
  | _ => true

namespace Inclusion

variable {C α : Type}

/-- A host with another compiler. -/
abbrev Host.compilingBy (host : Host C) (compile : Source → String → Run Desk C) : Host C := { host with compile }

/-! ### Desks side by side -/

/-- A host and a compiler that come to the same on desks that `R` relates, and lead to related ones, as routine
events do. -/
structure Host.Even (host : Host C) (compile' : Source → String → Run Desk C) (R : Desk → Desk → Prop) : Prop where
  note (event : Event) : event.isRoutine = true → Run.Agree R (note event) (Inclusion.note event)
  compile (source : Source) (name : String) : Run.Agree R (host.compile source name) (compile' source name)

namespace Host.Even

variable {host : Host C} {compile' : Source → String → Run Desk C} {R : Desk → Desk → Prop}
  (heven : host.Even compile' R)
include heven

theorem searchRoots (files : Files) (reference : String) (roots : List String) :
    Run.Agree R (searchRoots files reference roots) (Inclusion.searchRoots files reference roots) := by
  induction roots with
  | nil => exact .pure _
  | cons root rest ih =>
    refine .bind (heven.note _ rfl) fun _ => .bind (.ofExcept _) fun isThere => ?_
    cases isThere with
    | true => exact .pure _
    | false => exact ih

theorem findPartial (setting : Setting) (invocation : Invocation) (reference : String) :
    Run.Agree R (findPartial setting invocation reference)
      (Inclusion.findPartial setting invocation reference) := by
  refine .bind (.ofExcept _) fun _ => .bind (heven.note _ rfl) fun _ => ?_
  refine .bind (heven.searchRoots _ _ _) fun found => ?_
  cases found with
  | some path => exact .pure _
  | none => exact .bind (heven.note _ rfl) fun _ => .throw _

theorem fetchAnew (files : Files) (path : Path) :
    Run.Agree R (fetchAnew host files path) (Inclusion.fetchAnew (host.compilingBy compile') files path) := by
  refine .bind (.bind (heven.note _ rfl) fun _ => .ofExcept _) fun bytes => ?_
  refine .bind (.bind (heven.note _ rfl) fun _ => .onFault (heven.compile _ _) fun fault => ?_)
    fun compiled => .bind (heven.note _ rfl) fun _ => .pure _
  split <;> exact .throw _

end Host.Even

/-! ### Passes side by side -/

/-- Passes that are related are in the same scope, whichever that is. -/
structure Pass.InStep (R : Pass C → Pass C → Prop) : Prop where
  scope {p q : Pass C} : R p q → p.scope = q.scope
  put {p q : Pass C} (scope : Scope) : R p q → R { p with scope } { q with scope }

/-- What a host does and notes, and what it does with another compiler, comes to the same in passes that `R`
relates, and leads to related ones. -/
structure Host.Lockstep (host : Host C) (compile' : Source → String → Run Desk C) (setting : Setting)
    (R : Pass C → Pass C → Prop) : Prop extends Pass.InStep R where
  note (event : Event) : event.isRoutine = true →
    Run.Agree R (Pass.onDesk (note event)) (Pass.onDesk (Inclusion.note event))
  compile (source : Source) (name : String) :
    Run.Agree R (Pass.onDesk do Inclusion.note (.compile name); host.compile source name)
      (Pass.onDesk do Inclusion.note (.compile name); compile' source name)
  find (invocation : Invocation) (reference : String) :
    Run.Agree R (Pass.onDesk (findPartial setting invocation reference))
      (Pass.onDesk (findPartial setting invocation reference))

section
variable {R : Pass C → Pass C → Prop}

section
variable (hstep : Pass.InStep R)
include hstep

theorem lockstep_onScope (f : Scope → Scope) : Run.Agree R (Pass.onScope f) (Pass.onScope f) := by
  intro p q h
  refine ⟨rfl, ?_⟩
  show R { p with scope := f p.scope } { q with scope := f q.scope }
  rw [hstep.scope h]
  exact hstep.put _ h

/-- What looks at the scope alone sees the same in both. -/
theorem lockstep_look {f g : Pass C → Run (Pass C) α}
    (h : ∀ p q, p.scope = q.scope → Run.Agree R (f p) (g q)) : Run.Agree R (get >>= f) (get >>= g) :=
  fun p q hp => h p q (hstep.scope hp) p q hp

/-- Within a layer passes stay in step, even if there is no layer left to pop. -/
theorem lockstep_withinLayer {layer : Bindings} {m n : Run (Pass C) α} (h : m.Agree R n) :
    Run.Agree R (withinLayer layer m) (withinLayer layer n) := by
  refine .bind (lockstep_onScope hstep _) fun _ p q hp => ?_
  obtain ⟨houtcome, hafter⟩ := h p q hp
  rw [Run.start_finallyDo, Run.start_finallyDo, Pass.leaveLayer, Pass.leaveLayer, hstep.scope hafter]
  cases (n.start q).2.scope.pop with
  | error fault => exact ⟨rfl, hafter⟩
  | ok scope => exact ⟨houtcome, hstep.put scope hafter⟩

variable {inclusion inclusion' : Invocation → Run (Pass C) String}
  (hinclusion : ∀ invocation, Run.Agree R (inclusion invocation) (inclusion' invocation))

include hinclusion in
theorem lockstep_play (script : Script α) :
    Run.Agree R (script.play inclusion) (script.play inclusion') := by
  induction script with
  | done a => exact .pure a
  | fail fault => exact .throw fault
  | look next ih =>
    refine lockstep_look hstep fun p q hscope => ?_
    rw [hscope]
    exact ih q.scope
  | bind_ name value next ih => exact .bind (lockstep_onScope hstep _) fun _ => ih
  | call invocation frame next ih =>
    cases frame with
    | none => exact .bind (hinclusion invocation) ih
    | some frame => exact .bind (lockstep_withinLayer hstep (hinclusion invocation)) ih

theorem lockstep_evaluateArguments (host : Host C) (compile' : Source → String → Run Desk C)
    (invocation : Invocation) :
    Run.Agree R (evaluateArguments host invocation)
      (evaluateArguments (host.compilingBy compile') invocation) := by
  unfold evaluateArguments
  split
  · exact .pure _
  · refine lockstep_look hstep fun p q hscope => ?_
    rw [hscope]
    exact .bind (.ofExcept _) fun _ => .pure _

end

section
variable {host : Host C} {compile' : Source → String → Run Desk C} {setting : Setting}
  (hstep : host.Lockstep compile' setting R)
include hstep

/-- Between two events, as directives and spans are. -/
theorem lockstep_between {before after : Event} (hbefore : before.isRoutine = true) (hafter : after.isRoutine = true)
    {m n : Run (Pass C) α} (h : m.Agree R n) :
    Run.Agree R (Pass.onDesk (note before) >>= fun _ => m.finallyDo fun p => .ok (p.add after))
      (Pass.onDesk (note before) >>= fun _ => n.finallyDo fun q => .ok (q.add after)) := by
  refine .bind (hstep.note before hbefore) fun _ p q hp => ?_
  obtain ⟨houtcome, hrelated⟩ := h p q hp
  exact ⟨houtcome, (hstep.note after hafter _ _ hrelated).2⟩

variable {inclusion inclusion' : Invocation → Run (Pass C) String}
  (hinclusion : ∀ invocation, Run.Agree R (inclusion invocation) (inclusion' invocation))
include hinclusion

theorem lockstep_effectiveReference (invocation : Invocation) :
    Run.Agree R (effectiveReference host inclusion invocation)
      (effectiveReference (host.compilingBy compile') inclusion' invocation) := by
  unfold effectiveReference
  split
  · exact .bind (hstep.compile _ _) fun compiled => lockstep_play hstep.toInStep hinclusion _
  · exact .pure _

/-- A partial runs alike in both, and its faults leave it alike. -/
theorem lockstep_runPartial (compiled : C) (path : Path) :
    Run.Agree R (runPartial host inclusion compiled path)
      (runPartial (host.compilingBy compile') inclusion' compiled path) := by
  refine lockstep_look hstep.toInStep fun p q hscope => ?_
  simp only [hscope]
  refine .bind (hstep.note _ rfl) fun _ => .onFault (lockstep_play hstep.toInStep hinclusion _) fun fault => ?_
  exact .ite (fun _ => .bind (hstep.note _ rfl) fun _ => .throw _) fun _ => .throw _

theorem lockstep_runWith (arguments : Option Bindings) (compiled : C) (path : Path) :
    Run.Agree R (runWith host inclusion arguments compiled path)
      (runWith (host.compilingBy compile') inclusion' arguments compiled path) := by
  unfold runWith
  cases arguments with
  | none => exact lockstep_runPartial hstep hinclusion compiled path
  | some values =>
    exact .bind (lockstep_onScope hstep.toInStep _) fun _ => lockstep_runPartial hstep hinclusion compiled path

end

/-- At any depth a directive comes to the same in both and leaves them related, if what they fetch does. -/
theorem lockstep_executeWith {host : Host C} {compile' : Source → String → Run Desk C} {setting : Setting}
    (hstep : host.Lockstep compile' setting R) {fetch fetch' : Path → Run (Store C) C}
    (hfetch : ∀ path, Run.Agree R (Pass.onStore (fetch path)) (Pass.onStore (fetch' path))) (depth : Nat)
    (invocation : Invocation) :
    Run.Agree R (executeWith host setting fetch depth invocation)
      (executeWith (host.compilingBy compile') setting fetch' depth invocation) := by
  induction depth generalizing invocation with
  | zero => exact .throw _
  | succ depth ih =>
    refine lockstep_between hstep rfl rfl (.bind (lockstep_effectiveReference hstep ih invocation)
      fun reference => ?_)
    refine .bind (hstep.find invocation reference) fun path => ?_
    refine .bind (hfetch path) fun compiled => ?_
    refine .bind (lockstep_evaluateArguments hstep.toInStep host compile' invocation) fun arguments => ?_
    exact lockstep_between hstep rfl rfl
      (lockstep_withinLayer hstep.toInStep (lockstep_runWith hstep ih arguments compiled path))

end

/-! ### Passes with the same cache -/

/-- Passes in the same scope and with the same cache, whose desks are related. -/
structure Pass.Level (R : Desk → Desk → Prop) (p q : Pass C) : Prop where
  scope : p.scope = q.scope
  cache : p.cache = q.cache
  desk : R p.desk q.desk

section
variable {R : Desk → Desk → Prop}

theorem level_inStep : Pass.InStep (C := C) (Pass.Level R) where
  scope h := h.scope
  put _ h := ⟨rfl, h.cache, h.desk⟩

theorem level_onDesk {m n : Run Desk α} (h : m.Agree R n) :
    Run.Agree (Pass.Level (C := C) R) (Pass.onDesk m) (Pass.onDesk n) := by
  intro p q hp
  obtain ⟨houtcome, hdesk⟩ := h _ _ hp.desk
  exact ⟨houtcome, hp.scope, hp.cache, hdesk⟩

variable {host : Host C} {compile' : Source → String → Run Desk C} (heven : host.Even compile' R)
include heven

theorem level_lockstep (setting : Setting) : host.Lockstep compile' setting (Pass.Level R) where
  toInStep := level_inStep
  note event hevent := level_onDesk (heven.note event hevent)
  compile source name := level_onDesk (.bind (heven.note _ rfl) fun _ => heven.compile source name)
  find invocation reference := level_onDesk (heven.findPartial setting invocation reference)

/-- Either both caches hold the partial, or it is read and compiled for both. -/
theorem level_fetch (files : Files) (path : Path) :
    Run.Agree (Pass.Level R) (Pass.onStore (fetch host files path))
      (Pass.onStore (fetch (host.compilingBy compile') files path)) := by
  intro p q hp
  show ((fetch host files path).start p.store).1 = ((fetch (host.compilingBy compile') files path).start q.store).1 ∧
    Pass.Level R { p with store := ((fetch host files path).start p.store).2 }
      { q with store := ((fetch (host.compilingBy compile') files path).start q.store).2 }
  have hcache : p.store.cache = q.store.cache := hp.cache
  cases hc : q.store.cache.find? path.toString with
  | some compiled =>
    rw [start_fetch_hit hc, start_fetch_hit (hcache ▸ hc)]
    exact ⟨rfl, hp.scope, congrArg Cache.hit hcache, (heven.note _ rfl _ _ hp.desk).2⟩
  | none =>
    obtain ⟨houtcome, hdesk⟩ := heven.fetchAnew files path _ _ hp.desk
    rw [start_fetch_miss hc, start_fetch_miss (hcache ▸ hc), hcache]
    rcases hf : (fetchAnew host files path).start p.store.desk with ⟨outcome, d⟩
    rcases hf' : (fetchAnew (host.compilingBy compile') files path).start q.store.desk with ⟨outcome', d'⟩
    have hboth : outcome = outcome' ∧ R d d' := by
      have hsame := And.intro houtcome hdesk
      rwa [Pass.desk, Pass.desk, hf, hf'] at hsame
    obtain ⟨rfl, hd⟩ := hboth
    cases outcome with
    | error fault => exact ⟨rfl, hp.scope, rfl, hd⟩
    | ok compiled => exact ⟨rfl, hp.scope, rfl, hd⟩

/-- At any depth a directive comes to the same, and takes the same from the cache. -/
theorem level_executeWith (setting : Setting) (depth : Nat) (invocation : Invocation) :
    Run.Agree (Pass.Level R) (executeWith host setting (fetch host setting.files) depth invocation)
      (executeWith (host.compilingBy compile') setting (fetch (host.compilingBy compile') setting.files) depth
        invocation) :=
  lockstep_executeWith (level_lockstep heven setting) (level_fetch heven setting.files) depth invocation

end

end Inclusion

end Transclusion

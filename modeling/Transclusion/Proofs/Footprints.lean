import Transclusion.Proofs.Fetching
import Transclusion.Proofs.Searching
import Transclusion.Proofs.Stops
import Transclusion.Proofs.Templates

/-! What a directive touches.

The stages of a directive come one after another, and each has something of its own
to touch: the strategy and the paths that are looked up, the file that is read and
the counters of the cache, the arguments, and the partial that is started. What of
this is on the trace is summed up in a `Footprint`, which is put together from those
of the stages (`Desk.Touches`). A directive that stops touches what its stages up to
there do and no more, and its arguments do not matter (`Halts`); one that reaches its
partial starts it once (`Runs`). Which of the two it is, and with what, is settled
stage by stage (`executeWith_stages`). -/
namespace Transclusion

/-- What has been touched: how often a strategy was asked, the paths that were looked up, those that were
read, and the partials that were started, each in its scope. -/
structure Footprint where
  searches : Nat
  lookups : List Path
  reads : List Path
  starts : List (Path × Scope)

namespace Footprint

/-- Nothing. -/
protected def none : Footprint := ⟨0, [], [], []⟩

instance : Append Footprint where
  append a b := ⟨a.searches + b.searches, a.lookups ++ b.lookups, a.reads ++ b.reads, a.starts ++ b.starts⟩

theorem append_def (a b : Footprint) : a ++ b =
    ⟨a.searches + b.searches, a.lookups ++ b.lookups, a.reads ++ b.reads, a.starts ++ b.starts⟩ := rfl

@[simp] theorem none_append (a : Footprint) : Footprint.none ++ a = a := by
  simp [append_def, Footprint.none]

@[simp] theorem append_none (a : Footprint) : a ++ Footprint.none = a := by
  simp [append_def, Footprint.none]

theorem append_assoc (a b c : Footprint) : a ++ b ++ c = a ++ (b ++ c) := by
  simp [append_def, Nat.add_assoc]

end Footprint

def Event.footprint : Event → Footprint
  | .search _ => ⟨1, [], [], []⟩
  | .lookup path => ⟨0, [path], [], []⟩
  | .read path => ⟨0, [], [path], []⟩
  | .start path scope => ⟨0, [], [], [(path, scope)]⟩
  | _ => .none

namespace Trace

def footprint : Trace → Footprint
  | [] => .none
  | event :: rest => event.footprint ++ footprint rest

theorem footprint_append (a b : Trace) : footprint (a ++ b) = footprint a ++ footprint b := by
  induction a with
  | nil => simp [footprint]
  | cons event rest ih => rw [List.cons_append, footprint, ih, footprint, Footprint.append_assoc]

theorem footprint_lookups (paths : List Path) :
    footprint (paths.map .lookup) = ⟨0, paths, [], []⟩ := by
  induction paths with
  | nil => rfl
  | cons path rest ih =>
    rw [List.map_cons, footprint, ih]
    rfl

/-- Records touch nothing. -/
theorem footprint_of_records {events : Trace} (h : ∀ event ∈ events, ∃ r, event = .record r) :
    footprint events = .none := by
  induction events with
  | nil => rfl
  | cons event rest ih =>
    obtain ⟨r, rfl⟩ := h event (List.mem_cons_self ..)
    rw [footprint, ih fun e he => h e (List.mem_cons_of_mem _ he)]
    rfl

theorem balanced_of_plain {events : Trace} (h : ∀ event ∈ events, event.isPlain = true) :
    Balanced events := by
  induction events with
  | nil => exact .nil
  | cons event rest ih =>
    exact .plain (h event (List.mem_cons_self ..)) (ih fun e he => h e (List.mem_cons_of_mem _ he))

/-- Plain events are all of the open directive's own. -/
theorem own_of_plain {events : Trace} (h : ∀ event ∈ events, event.isPlain = true) :
    own 1 events = events := by
  induction events with
  | nil => rfl
  | cons event rest ih =>
    rw [own_plain (h event (List.mem_cons_self ..)), if_pos rfl,
      ih fun e he => h e (List.mem_cons_of_mem _ he)]

end Trace

namespace Inclusion
open Directive

variable {C α : Type}

/-! ### Desks -/

namespace Desk

/-- From one desk to another plain events were added, which touch this. -/
def Touches (touched : Footprint) (d e : Desk) : Prop :=
  ∃ events, e.trace = d.trace ++ events ∧ (∀ event ∈ events, event.isPlain = true) ∧
    Trace.footprint events = touched

/-- From one desk to another balanced events were added, of which the own ones touch this. -/
def OwnTouches (touched : Footprint) (d e : Desk) : Prop :=
  ∃ events, e.trace = d.trace ++ events ∧ Trace.Balanced events ∧
    Trace.footprint (Trace.own 1 events) = touched

variable {a b : Footprint} {d e f : Desk}

theorem Touches.refl (d : Desk) : Touches .none d d := ⟨[], by simp, by simp, rfl⟩

theorem Touches.append (h : Touches a d e) (h' : Touches b e f) : Touches (a ++ b) d f := by
  obtain ⟨events, he, hplain, rfl⟩ := h
  obtain ⟨more, hf, hplain', rfl⟩ := h'
  refine ⟨events ++ more, by rw [hf, he, List.append_assoc], fun event hmem => ?_,
    Trace.footprint_append ..⟩
  exact (List.mem_append.1 hmem).elim (hplain event) (hplain' event)

theorem Touches.of_eq (h : Touches a d e) (hab : a = b) : Touches b d e := hab ▸ h

theorem touches_addAll (d : Desk) {events : List Event} (h : ∀ event ∈ events, event.isPlain = true) :
    Touches (Trace.footprint events) d (d.addAll events) := ⟨events, rfl, h, rfl⟩

theorem touches_add (d : Desk) (event : Event) (h : event.isPlain = true) :
    Touches event.footprint d (d.add event) := by
  have hone : Touches (Trace.footprint [event]) d (d.addAll [event]) := d.touches_addAll (by simpa using h)
  rwa [Trace.footprint, Trace.footprint, Footprint.append_none] at hone

theorem Recorded.touches (h : Recorded d e) : Touches .none d e := by
  obtain ⟨records, he⟩ := h
  have hrecords : ∀ event ∈ records.map Event.record, ∃ r, event = .record r := fun event hmem =>
    let ⟨r, _, hr⟩ := List.mem_map.1 hmem
    ⟨r, hr.symm⟩
  refine ⟨_, he, fun event hmem => ?_, Trace.footprint_of_records hrecords⟩
  obtain ⟨r, rfl⟩ := hrecords event hmem
  rfl

theorem Touches.own (h : Touches a d e) : OwnTouches a d e := by
  obtain ⟨events, he, hplain, rfl⟩ := h
  exact ⟨events, he, Trace.balanced_of_plain hplain, by rw [Trace.own_of_plain hplain]⟩

theorem OwnTouches.append (h : OwnTouches a d e) (h' : OwnTouches b e f) : OwnTouches (a ++ b) d f := by
  obtain ⟨events, he, hbalanced, rfl⟩ := h
  obtain ⟨more, hf, hbalanced', rfl⟩ := h'
  refine ⟨events ++ more, by rw [hf, he, List.append_assoc], hbalanced.append hbalanced', ?_⟩
  rw [Trace.own_append hbalanced, Trace.footprint_append]

/-- Where all own events are records, nothing has been touched. -/
theorem ownTouches_of_grown (h : Grown (fun event => ∃ r, event = .record r) d e) :
    OwnTouches .none d e := by
  obtain ⟨events, he, hbalanced, hown⟩ := h
  exact ⟨events, he, hbalanced, Trace.footprint_of_records hown⟩

/-- What has been touched between the entry of a directive and its exit. -/
theorem Touches.since {tag : String} (h : Touches a (d.add (.enter tag)) e) :
    Trace.footprint (Trace.since d.trace (e.add .leave).trace) = a := by
  obtain ⟨events, he, -, rfl⟩ := h
  have hsince : Trace.since d.trace (e.add .leave).trace = .enter tag :: (events ++ [.leave]) := by
    simp [add, he, Trace.since]
  rw [hsince, Trace.footprint, Trace.footprint_append]
  exact (Footprint.none_append _).trans (Footprint.append_none _)

/-- What a directive has touched itself between its entry and its exit. -/
theorem OwnTouches.since {tag : String} (h : OwnTouches a (d.add (.enter tag)) e) :
    Trace.footprint (Trace.own 0 (Trace.since d.trace (e.add .leave).trace)) = a := by
  obtain ⟨events, he, hbalanced, rfl⟩ := h
  have hsince : Trace.since d.trace (e.add .leave).trace = .enter tag :: (events ++ [.leave]) := by
    simp [add, he, Trace.since]
  rw [hsince, show Trace.own 0 (.enter tag :: (events ++ [.leave])) = Trace.own 1 (events ++ [.leave]) from rfl,
    Trace.own_append hbalanced, Trace.footprint_append]
  exact Footprint.append_none _

end Desk

/-! ### Evaluating a reference alone -/

/-- From one pass to another the store has stayed, unless a directive was entered. -/
def Pass.StaysOrEnters (p q : Pass C) : Prop :=
  q.store = p.store ∨ ∃ events tag more, q.desk.trace = p.desk.trace ++ (events ++ .enter tag :: more)

namespace Pass.StaysOrEnters

variable {p q r : Pass C}

theorem refl (p : Pass C) : StaysOrEnters p p := .inl rfl

theorem trans ⦃p q r : Pass C⦄ (h : StaysOrEnters p q) (h' : StaysOrEnters q r) : StaysOrEnters p r := by
  rcases h with h | ⟨events, tag, more, h⟩
  · have hdesk : q.desk = p.desk := congrArg Store.desk h
    unfold StaysOrEnters at h' ⊢
    rwa [h, hdesk] at h'
  · rcases h' with h' | ⟨events', tag', more', h'⟩
    · have hdesk : r.desk = q.desk := congrArg Store.desk h'
      exact .inr ⟨events, tag, more, by rw [hdesk, h]⟩
    · exact .inr ⟨events, tag, more ++ events' ++ .enter tag' :: more', by rw [h', h]; simp⟩

theorem of_store (h : q.store = p.store) : StaysOrEnters p q := .inl h

end Pass.StaysOrEnters

section
variable {host : Host C} (hquiet : host.Quiet) (setting : Setting)

/-- A layer around a run changes the scope alone. -/
theorem staysOrEnters_withinLayer {m : Run (Pass C) α} (hm : m.Keeps Pass.StaysOrEnters)
    (bindings : Bindings) : (withinLayer bindings m).Keeps Pass.StaysOrEnters := by
  intro p
  have hinner : Pass.StaysOrEnters p (m.start { p with scope := p.scope.push bindings }).2 :=
    hm { p with scope := p.scope.push bindings }
  show Pass.StaysOrEnters p ((m.finallyDo Pass.leaveLayer).start { p with scope := p.scope.push bindings }).2
  rw [Run.start_finallyDo]
  split
  · next q hleave =>
    refine hinner.trans (.of_store ?_)
    unfold Pass.leaveLayer at hleave
    cases hpop : (m.start { p with scope := p.scope.push bindings }).2.scope.pop with
    | error fault => simp [hpop, Except.map] at hleave
    | ok scope =>
      rw [hpop] at hleave
      exact (congrArg Pass.store (Except.ok.inj hleave)).symm
  · exact hinner

theorem staysOrEnters_play {inclusion : Invocation → Run (Pass C) String}
    (hinclusion : ∀ invocation, (inclusion invocation).Keeps Pass.StaysOrEnters) (script : Script α) :
    (script.play inclusion).Keeps Pass.StaysOrEnters := by
  induction script with
  | done a => exact .pure .refl a
  | fail fault => exact .throw .refl fault
  | look next ih => exact .look fun p => ih p.scope p
  | bind_ name value next ih => exact fun p => ih { p with scope := p.scope.set name value }
  | call invocation frame next ih =>
    cases frame with
    | none => exact .bind Pass.StaysOrEnters.trans (hinclusion invocation) ih
    | some frame =>
      exact .bind Pass.StaysOrEnters.trans (staysOrEnters_withinLayer (hinclusion invocation) frame) ih

/-- A directive runs its stages between its entry and its exit. -/
theorem start_executeWith (fetch : Path → Run (Store C) C) (depth : Nat) (invocation : Invocation)
    (p : Pass C) :
    (executeWith host setting fetch (depth + 1) invocation).start p =
      let (outcome, q) := (stages host setting fetch (executeWith host setting fetch depth) invocation).start
        (p.add (.enter invocation.tag))
      (outcome, q.add .leave) := rfl

include hquiet

/-- Executing a directive enters it, unless it lies too deep. -/
theorem staysOrEnters_executeWith (depth : Nat) (invocation : Invocation) :
    (executeWith host setting (fetch host setting.files) depth invocation).Keeps Pass.StaysOrEnters := by
  cases depth with
  | zero => exact .throw .refl _
  | succ depth =>
    intro p
    have hstages := within_stages setting invocation (p.add (.enter invocation.tag))
      (lasting_own hquiet ..) (within_executeWith setting hquiet depth _)
    obtain ⟨events, hevents, -⟩ := hstages.desk
    refine .inr ⟨[], invocation.tag, events ++ [.leave], ?_⟩
    rw [start_executeWith]
    refine (congrArg (· ++ [Event.leave]) hevents).trans ?_
    show p.desk.trace ++ [.enter invocation.tag] ++ events ++ [.leave] = _
    simp

/-- Evaluating a reference that includes nothing touches nothing, and leaves the cache alone. -/
theorem touches_effectiveReference (depth : Nat) (invocation : Invocation) (p : Pass C) :
    let inclusion := executeWith host setting (fetch host setting.files) depth
    let q := ((effectiveReference host inclusion invocation).start p).2
    (∀ event ∈ Trace.since p.desk.trace q.desk.trace, event.isPlain = true) →
      Desk.Touches .none p.desk q.desk ∧ q.cache = p.cache := by
  intro inclusion q halone
  by_cases htemplated : invocation.markup.isTemplated = true
  · have hcompile : Desk.Touches .none p.desk
        ((host.compile (.text invocation.markup.reference) referenceName).start
          (p.desk.add (.compile referenceName))).2 :=
      (p.desk.touches_add (.compile referenceName) rfl).append (hquiet _ _ _).touches
    have hq : q = ((effectiveReference host inclusion invocation).start p).2 := rfl
    rw [start_effectiveReference htemplated] at hq
    rcases hcompiled : (host.compile (.text invocation.markup.reference) referenceName).start
      (p.desk.add (.compile referenceName)) with ⟨fault | compiled, d⟩ <;>
      rw [hcompiled] at hcompile hq
    · rw [hq]
      exact ⟨hcompile, rfl⟩
    · have hplay := staysOrEnters_play (staysOrEnters_executeWith hquiet setting depth)
        (host.script compiled) { p with store := { p.store with desk := d } }
      rw [← show q = _ from hq] at hplay
      rcases hplay with hstays | ⟨events, tag, more, henters⟩
      · have hdesk : q.desk = d := congrArg Store.desk hstays
        refine ⟨hdesk ▸ hcompile, ?_⟩
        show q.store.cache = p.cache
        rw [hstays]
        rfl
      · -- A directive that was entered would be on the trace.
        obtain ⟨before, hbefore, -, -⟩ := hcompile
        have hd : q.desk.trace = p.desk.trace ++ (before ++ (events ++ .enter tag :: more)) := by
          rw [henters, ← List.append_assoc p.desk.trace]
          exact congrArg (fun trace => trace ++ (events ++ .enter tag :: more)) hbefore
        have henter := halone (.enter tag) (by rw [hd, Trace.since, List.drop_left]; simp)
        exact absurd henter Bool.false_ne_true
  · have hq : q = p := by
      show ((effectiveReference host inclusion invocation).start p).2 = p
      unfold effectiveReference
      rw [if_neg htemplated]
      rfl
    rw [hq]
    exact ⟨.refl _, rfl⟩

/-! ### Fetching -/

theorem touches_fetchAnew (files : Files) (path : Path) (d : Desk) :
    Desk.Touches ⟨0, [], [path], []⟩ d ((fetchAnew host files path).start d).2 := by
  have hread := d.touches_add (.read path) rfl
  rw [start_fetchAnew]
  cases files.read path with
  | error fault => exact hread
  | ok bytes =>
    have hcompile : Desk.Touches .none (d.add (.read path))
        ((host.compile (.bytes bytes) path.toString).start
          ((d.add (.read path)).add (.compile path.toString))).2 :=
      ((d.add (.read path)).touches_add (.compile path.toString) rfl).append (hquiet _ _ _).touches
    dsimp only
    rcases hrun : (host.compile (.bytes bytes) path.toString).start
      ((d.add (.read path)).add (.compile path.toString)) with ⟨fault | compiled, e⟩ <;> rw [hrun] at hcompile
    · exact hread.append hcompile
    · exact (hread.append hcompile).append (e.touches_add (.record _) rfl)

/-- A fetch that fails has read the file, and counts as one that takes compiling. -/
theorem touches_fetch_error {files : Files} {path : Path} {s t : Store C} {fault : Fault}
    (h : (fetch host files path).start s = (.error fault, t)) :
    t.cache = s.cache.miss ∧ Desk.Touches ⟨0, [], [path], []⟩ s.desk t.desk := by
  cases hfind : s.cache.find? path.toString with
  | some compiled =>
    rw [start_fetch_hit hfind] at h
    simp at h
  | none =>
    have htouches := touches_fetchAnew hquiet files path s.desk
    rw [start_fetch_miss hfind] at h
    rcases hrun : (fetchAnew host files path).start s.desk with ⟨fault' | compiled, d⟩ <;>
      rw [hrun] at h htouches
    · obtain ⟨-, rfl⟩ := Prod.mk.inj h
      exact ⟨rfl, htouches⟩
    · simp at h

/-- A fetch that comes to a partial is a hit, and reads nothing, or it has read the file and left an
entry. -/
theorem touches_fetch_ok {files : Files} {path : Path} {s t : Store C} {compiled : C}
    (h : (fetch host files path).start s = (.ok compiled, t)) :
    ∃ reads, (t.cache = s.cache.hit ∧ reads = [] ∨
        t.cache = s.cache.miss.insert path.toString compiled ∧ reads = [path]) ∧
      Desk.Touches ⟨0, [], reads, []⟩ s.desk t.desk := by
  cases hfind : s.cache.find? path.toString with
  | some compiled' =>
    rw [start_fetch_hit hfind] at h
    obtain ⟨-, rfl⟩ := Prod.mk.inj h
    exact ⟨[], .inl ⟨rfl, rfl⟩, s.desk.touches_add (.record _) rfl⟩
  | none =>
    have htouches := touches_fetchAnew hquiet files path s.desk
    rw [start_fetch_miss hfind] at h
    rcases hrun : (fetchAnew host files path).start s.desk with ⟨fault' | compiled', d⟩ <;>
      rw [hrun] at h htouches
    · simp at h
    · obtain ⟨hcompiled, rfl⟩ := Prod.mk.inj h
      obtain rfl := Except.ok.inj hcompiled
      exact ⟨[path], .inr ⟨rfl, rfl⟩, htouches⟩

end

/-! ### Arguments -/

end Inclusion

namespace Directive

/-- The same directive with other arguments. -/
def Invocation.withArguments (invocation : Invocation) (arguments : Option (List Char)) : Invocation :=
  { invocation with markup := { invocation.markup with arguments } }

/-- The values of the arguments in a scope, if there are arguments. -/
def Invocation.values (invocation : Invocation) (scope : Scope) (unset : String → Value) (table : Attributes) :
    Except Fault (Option Bindings) :=
  match invocation.markup.arguments with
  | none => .ok none
  | some arguments => (bindArguments scope unset arguments table).map some

/-- A scope in which every look-up has an answer. -/
def Answers (scope : Scope) (table : Attributes) : Prop := ∀ name, ∃ answer, scope.get? name table = .ok answer

variable {scope : Scope} {table : Attributes} (h : Answers scope table) (unset : String → Value)
include h

theorem assignAll_of_answers (bindings : Bindings) (assignments : List Assignment) :
    ∃ result, assignAll scope unset bindings assignments table = .ok result := by
  induction assignments generalizing bindings with
  | nil => exact ⟨bindings, rfl⟩
  | cons first rest ih =>
    have hvalue : ∃ v, first.operand.value scope unset table = .ok v := by
      cases first.operand with
      | quoted mark body => exact ⟨_, rfl⟩
      | bare name =>
        obtain ⟨answer, hanswer⟩ := h (String.ofList name)
        exact ⟨answer.getD (unset (String.ofList name)), by rw [Operand.value, hanswer]; rfl⟩
    obtain ⟨v, hv⟩ := hvalue
    unfold assignAll
    rw [hv]
    exact ih _

/-- If every look-up has an answer, the arguments have values. -/
theorem values_of_answers (invocation : Invocation) :
    ∃ arguments, invocation.values scope unset table = .ok arguments := by
  unfold Invocation.values
  split
  · exact ⟨none, rfl⟩
  · next arguments _ =>
    obtain ⟨bindings, hbindings⟩ := assignAll_of_answers h unset [] (occurrences arguments)
    exact ⟨some bindings, congrArg (Except.map some) hbindings⟩

end Directive

namespace Inclusion
open Directive

variable {C α : Type}

theorem start_evaluateArguments (host : Host C) (invocation : Invocation) (p : Pass C) :
    (evaluateArguments host invocation).start p = (invocation.values p.scope host.unset host.attributes, p) := by
  unfold evaluateArguments Invocation.values
  cases invocation.markup.arguments with
  | none => rfl
  | some arguments =>
    simp only [Run.start_bind, Run.start_get, Run.start_ofExcept]
    cases bindArguments p.scope host.unset arguments host.attributes <;> rfl

/-! ### Running a partial -/

/-- The layer in which a partial starts. -/
def argumentLayer : Option Bindings → Bindings
  | none => []
  | some arguments => [(argumentsName, .ofBindings arguments)]

/-- What a partial is started in: the pass at hand, with the layer of the arguments on its scope. -/
theorem scope_launched (p : Pass C) (invocation : Invocation) (reference : String) (path : Path)
    (arguments : Option Bindings) :
    (p.launched invocation reference path arguments).scope = p.scope.push (argumentLayer arguments) := by
  cases arguments <;> rfl

theorem touches_launched (p : Pass C) (invocation : Invocation) (reference : String) (path : Path)
    (arguments : Option Bindings) :
    Desk.Touches ⟨0, [], [], [(path, p.scope.push (argumentLayer arguments))]⟩ p.desk
      (p.launched invocation reference path arguments).desk := by
  rw [← scope_launched p invocation reference path arguments]
  exact (p.desk.touches_add (.record _) rfl).append (Desk.touches_add _ (.start _ _) rfl)

section
variable {host : Host C} {inclusion : Invocation → Run (Pass C) String}

/-- A partial is played from where it is launched; what leaves it is changed on the way out. -/
theorem start_runWith (arguments : Option Bindings) (compiled : C) (invocation : Invocation)
    (reference : String) (path : Path) (p : Pass C) :
    let layered := (p.opened invocation reference path).framed (some [])
    let launched := p.launched invocation reference path arguments
    (runWith host inclusion arguments compiled path).start layered =
      match ((host.script compiled).play inclusion).start launched with
      | (.ok text, q) => (.ok text, q)
      | (.error fault, q) => (.error (host.leaving path.toString fault),
          if host.wraps fault then q.add (.record (failedRecord path.toString fault)) else q) := by
  intro layered launched
  have hstart : (runWith host inclusion arguments compiled path).start layered =
      (((host.script compiled).play inclusion).onFault fun fault => do
        if host.wraps fault then Pass.onDesk (record (failedRecord path.toString fault))
        throw (host.leaving path.toString fault)).start launched := by
    cases arguments <;> rfl
  rw [hstart, Run.start_onFault]
  rcases ((host.script compiled).play inclusion).start launched with ⟨fault | text, q⟩
  · dsimp only
    split <;> rfl
  · rfl

/-- A partial is played in a span and in a layer of its own, which is popped again. -/
theorem start_running (hwithin : ∀ invocation, (inclusion invocation).Keeps (Pass.Within fun _ _ => True))
    (arguments : Option Bindings) (compiled : C) (invocation : Invocation) (reference : String) (path : Path)
    (p : Pass C) :
    let played := ((host.script compiled).play inclusion).start
      (p.launched invocation reference path arguments)
    ∃ q, (withinSpan "include-executor" "include"
        [("tag", .text invocation.tag), ("reference", .text reference), ("path", .text path.toString)]
        (withinLayer [] (runWith host inclusion arguments compiled path))).start p =
          (played.1.mapError (host.leaving path.toString), q) ∧
      q.cache = played.2.cache ∧ q.scope = p.scope ∧ Desk.Touches .none played.2.desk q.desk := by
  intro played
  let layered := (p.opened invocation reference path).framed (some [])
  let ran := (runWith host inclusion arguments compiled path).start layered
  have hran : ran.1 = played.1.mapError (host.leaving path.toString) ∧ ran.2.cache = played.2.cache ∧
      Desk.Touches .none played.2.desk ran.2.desk := by
    have hstart : ran = _ := start_runWith arguments compiled invocation reference path p
    rw [hstart]
    rcases hplayed : ((host.script compiled).play inclusion).start
      (p.launched invocation reference path arguments) with ⟨fault | text, q⟩ <;>
      rw [show played = _ from hplayed]
    · dsimp only
      by_cases hwraps : host.wraps fault = true
      · rw [if_pos hwraps]
        exact ⟨rfl, rfl, Desk.touches_add _ _ rfl⟩
      · rw [if_neg hwraps]
        exact ⟨rfl, rfl, .refl _⟩
    · exact ⟨rfl, rfl, .refl _⟩
  -- The layer is popped, for the script changes the innermost layer at most.
  have hkept : Pass.Within (fun _ _ => True) layered ran.2 :=
    within_runWith (lasting_any host) hwithin (fun _ => trivial) fun _ _ => trivial
  have hleave : ran.2.leaveLayer = .ok { ran.2 with scope := p.scope } :=
    Pass.leaveLayer_of_outer (p := p.opened invocation reference path) hkept.outer
  have hlayer : (withinLayer [] (runWith host inclusion arguments compiled path)).start
      (p.opened invocation reference path) = (ran.1, { ran.2 with scope := p.scope }) := by
    show ((runWith host inclusion arguments compiled path).finallyDo Pass.leaveLayer).start layered = _
    rw [Run.start_finallyDo, hleave]
  refine ⟨Pass.add { ran.2 with scope := p.scope } (.record (.closing "include-executor" "include")), ?_,
    hran.2.1, rfl, ?_⟩
  · show ((withinLayer [] (runWith host inclusion arguments compiled path)).finallyDo
      fun p => .ok (p.add (.record (.closing "include-executor" "include")))).start
        (p.opened invocation reference path) = _
    rw [Run.start_finallyDo, hlayer, ← hran.1]
  · exact hran.2.2.append (Desk.touches_add _ (.record _) rfl)

end

/-! ### The stages, one after another -/

/-- The pass behind the search for a partial. -/
def Pass.searched (p : Pass C) (setting : Setting) (invocation : Invocation) (reference : String) : Pass C :=
  { p with store := { p.store with desk := p.desk.addAll (searching setting invocation reference) } }

theorem touches_searched (p : Pass C) (setting : Setting) (invocation : Invocation) (reference : String) :
    Desk.Touches ⟨1, lookedUp setting.files (invocation.candidates setting reference), [], []⟩ p.desk
      (p.searched setting invocation reference).desk := by
  have hplain : ∀ event ∈ searching setting invocation reference, event.isPlain = true := by
    intro event hevent
    rcases List.mem_cons.1 hevent with rfl | hlookup
    · rfl
    · obtain ⟨path, -, rfl⟩ := List.mem_map.1 hlookup
      rfl
  have htouches := p.desk.touches_addAll hplain
  rwa [searching, Trace.footprint, Trace.footprint_lookups] at htouches

/-- A directive ended with a fault before its partial was started: with its arguments unread, this touched
and this cache left behind. -/
structure Halts (execute : Invocation → Run (Pass C) String) (invocation : Invocation) (p : Pass C)
    (fault : Fault) (touched : Footprint) (cache : Cache C) : Prop where
  outcome : ((execute invocation).start p).1 = .error fault
  touched : Trace.footprint (Trace.since p.desk.trace ((execute invocation).start p).2.desk.trace) = touched
  cache : ((execute invocation).start p).2.cache = cache
  unread : ∀ arguments, (execute (invocation.withArguments arguments)).start p = (execute invocation).start p

/-- A directive ended as its partial did, which was played from where it was launched and started once;
this it touched itself. -/
structure Runs (host : Host C) (inclusion : Invocation → Run (Pass C) String)
    (ending : Except Fault String × Pass C) (p launched : Pass C) (compiled : C) (path : Path)
    (touched : Footprint) : Prop where
  outcome : ending.1 =
    (((host.script compiled).play inclusion).start launched).1.mapError (host.leaving path.toString)
  cache : ending.2.cache = (((host.script compiled).play inclusion).start launched).2.cache
  touched : Trace.footprint (Trace.own 0 (Trace.since p.desk.trace ending.2.desk.trace)) = touched

theorem Pass.start_onStore (m : Run (Store C) α) (p : Pass C) :
    (Pass.onStore m).start p = ((m.start p.store).1, { p with store := (m.start p.store).2 }) := rfl

/-- Includes the partial at a path: it is fetched, the arguments are evaluated, and it is run. -/
def includeFound (host : Host C) (setting : Setting) (inclusion : Invocation → Run (Pass C) String)
    (invocation : Invocation) (reference : String) (path : Path) : Run (Pass C) String := do
  let compiled ← Pass.onStore (fetch host setting.files path)
  let arguments ← evaluateArguments host invocation
  withinSpan "include-executor" "include"
    [("tag", .text invocation.tag), ("reference", .text reference), ("path", .text path.toString)]
    (withinLayer [] (runWith host inclusion arguments compiled path))

section
variable {host : Host C} {setting : Setting} {depth : Nat} {invocation : Invocation} {p q : Pass C}
  {reference : String} {fault : Fault}

/-- A directive halts where its stages do, if they do so whatever the arguments are. -/
theorem halts_of_stages {touched : Footprint} {cache : Cache C}
    (h : ∀ arguments, (stages host setting (fetch host setting.files)
      (executeWith host setting (fetch host setting.files) depth) (invocation.withArguments arguments)).start
        (p.add (.enter invocation.tag)) = (.error fault, q))
    (htouched : Desk.Touches touched (p.add (.enter invocation.tag)).desk q.desk) (hcache : q.cache = cache) :
    Halts (executeWith host setting (fetch host setting.files) (depth + 1)) invocation p fault touched cache := by
  have hending (arguments : Option (List Char)) :
      (executeWith host setting (fetch host setting.files) (depth + 1)
        (invocation.withArguments arguments)).start p = (.error fault, q.add .leave) := by
    have hstages := h arguments
    rw [start_executeWith, show (invocation.withArguments arguments).tag = invocation.tag from rfl, hstages]
  have hself : (executeWith host setting (fetch host setting.files) (depth + 1) invocation).start p =
      (.error fault, q.add .leave) := hending invocation.markup.arguments
  refine ⟨?_, ?_, ?_, fun arguments => (hending arguments).trans hself.symm⟩
  · rw [hself]
  · rw [hself]
    exact htouched.since
  · rw [hself]
    exact hcache

section
variable (heval : (effectiveReference host (executeWith host setting (fetch host setting.files) depth)
  invocation).start (p.add (.enter invocation.tag)) = (.ok reference, q))
include heval

/-- Behind its reference a directive finds its partial, and goes on with it. -/
theorem start_stages (arguments : Option (List Char)) :
    (stages host setting (fetch host setting.files) (executeWith host setting (fetch host setting.files) depth)
      (invocation.withArguments arguments)).start (p.add (.enter invocation.tag)) =
        (Pass.onDesk (findPartial setting invocation reference) >>=
          includeFound host setting (executeWith host setting (fetch host setting.files) depth)
            (invocation.withArguments arguments) reference).start q := Run.start_bind_ok heval _

variable (htouched : Desk.Touches .none (p.add (.enter invocation.tag)).desk q.desk)
  (hcache : q.cache = p.cache)

section
include htouched hcache

/-- An unsafe reference is refused before anything is touched. -/
theorem halts_refused (hcheck : checkReference invocation.tag reference = .error fault) :
    Halts (executeWith host setting (fetch host setting.files) (depth + 1)) invocation p fault .none
      p.cache := by
  refine halts_of_stages (q := q) (fun arguments => ?_) htouched hcache
  rw [start_stages heval]
  refine Run.start_bind_error ?_ _
  rw [Pass.start_onDesk, start_findPartial, hcheck]
  rfl

end

variable (hcheck : checkReference invocation.tag reference = .ok ())
include hcheck

section
include htouched hcache

/-- A lookup that fails ends the search, and nothing is fetched. -/
theorem halts_lookup
    (hfound : found setting.files (invocation.candidates setting reference) = .error fault) :
    Halts (executeWith host setting (fetch host setting.files) (depth + 1)) invocation p fault
      ⟨1, lookedUp setting.files (invocation.candidates setting reference), [], []⟩ p.cache := by
  refine halts_of_stages (q := q.searched setting invocation reference) (fun arguments => ?_)
    (htouched.append (touches_searched ..)) hcache
  rw [start_stages heval]
  refine Run.start_bind_error ?_ _
  rw [Pass.start_onDesk, start_findPartial, hcheck, hfound]
  rfl

/-- A reference that no root holds is reported, and nothing is fetched. -/
theorem halts_nowhere (hfound : found setting.files (invocation.candidates setting reference) = .ok none) :
    Halts (executeWith host setting (fetch host setting.files) (depth + 1)) invocation p
      (.notFound reference (invocation.strategy.roots setting.site setting.document))
      ⟨1, lookedUp setting.files (invocation.candidates setting reference), [], []⟩ p.cache := by
  let report : Event := .record
    (notFoundRecord reference (invocation.strategy.roots setting.site setting.document))
  have hsearched := (htouched.append (touches_searched q setting invocation reference)).of_eq
    (Footprint.none_append _)
  have hreported := (hsearched.append (Desk.touches_add _ report rfl)).of_eq
    (Footprint.append_none _)
  refine halts_of_stages (q := (q.searched setting invocation reference).add report) (fun arguments => ?_)
    hreported hcache
  rw [start_stages heval]
  refine Run.start_bind_error ?_ _
  rw [Pass.start_onDesk, start_findPartial, hcheck, hfound]
  rfl

end

variable {path : Path}
  (hfound : found setting.files (invocation.candidates setting reference) = .ok (some path))
include hfound

/-- Behind the search a directive goes on with the partial that was found. -/
theorem start_found (arguments : Option (List Char)) :
    (stages host setting (fetch host setting.files) (executeWith host setting (fetch host setting.files) depth)
      (invocation.withArguments arguments)).start (p.add (.enter invocation.tag)) =
        (includeFound host setting (executeWith host setting (fetch host setting.files) depth)
          (invocation.withArguments arguments) reference path).start
            (q.searched setting invocation reference) := by
  rw [start_stages heval]
  refine Run.start_bind_ok ?_ _
  rw [Pass.start_onDesk, start_findPartial, hcheck, hfound]
  rfl

/-- A fetch that fails ends the directive. -/
theorem start_unfetched {s : Store C}
    (hfetch : (fetch host setting.files path).start (q.searched setting invocation reference).store =
      (.error fault, s)) (arguments : Option (List Char)) :
    (stages host setting (fetch host setting.files) (executeWith host setting (fetch host setting.files) depth)
      (invocation.withArguments arguments)).start (p.add (.enter invocation.tag)) =
        (.error fault, ⟨q.scope, s⟩) := by
  rw [start_found heval hcheck hfound]
  refine Run.start_bind_error ?_ _
  rw [Pass.start_onStore, hfetch]
  rfl

/-- A file that cannot be read, or that the host rejects, counts as one that takes compiling, and leaves no
entry. -/
theorem halts_fetch (hquiet : host.Quiet)
    (htouched : Desk.Touches .none (p.add (.enter invocation.tag)).desk q.desk) (hcache : q.cache = p.cache)
    {s : Store C}
    (hfetch : (fetch host setting.files path).start (q.searched setting invocation reference).store =
      (.error fault, s)) :
    Halts (executeWith host setting (fetch host setting.files) (depth + 1)) invocation p fault
      ⟨1, lookedUp setting.files (invocation.candidates setting reference), [path], []⟩ p.cache.miss := by
  obtain ⟨hmiss, hread⟩ := touches_fetch_error hquiet hfetch
  have hsearched := (htouched.append (touches_searched q setting invocation reference)).of_eq
    (Footprint.none_append _)
  have hfetched := (hsearched.append hread).of_eq
    (b := ⟨1, lookedUp setting.files (invocation.candidates setting reference), [path], []⟩)
    (by simp [Footprint.append_def])
  exact halts_of_stages (q := ⟨q.scope, s⟩) (start_unfetched heval hcheck hfound hfetch) hfetched
    (hmiss.trans (congrArg Cache.miss hcache))

/-- Behind the fetch a directive evaluates its arguments, and runs the partial if it can. -/
theorem start_fetched {s : Store C} {compiled : C}
    (hfetch : (fetch host setting.files path).start (q.searched setting invocation reference).store =
      (.ok compiled, s)) :
    (stages host setting (fetch host setting.files) (executeWith host setting (fetch host setting.files) depth)
      invocation).start (p.add (.enter invocation.tag)) =
        match invocation.values q.scope host.unset host.attributes with
        | .error fault => (.error fault, ⟨q.scope, s⟩)
        | .ok arguments => (withinSpan "include-executor" "include"
            [("tag", .text invocation.tag), ("reference", .text reference), ("path", .text path.toString)]
            (withinLayer [] (runWith host (executeWith host setting (fetch host setting.files) depth) arguments
              compiled path))).start ⟨q.scope, s⟩ := by
  have hself := start_found heval hcheck hfound invocation.markup.arguments
  rw [show invocation.withArguments invocation.markup.arguments = invocation from rfl] at hself
  have hstore : (Pass.onStore (fetch host setting.files path)).start (q.searched setting invocation reference) =
      (.ok compiled, (⟨q.scope, s⟩ : Pass C)) := by
    rw [Pass.start_onStore, hfetch]
    rfl
  rw [hself, includeFound, Run.start_bind_ok hstore, Run.start_bind, start_evaluateArguments]
  cases invocation.values q.scope host.unset host.attributes <;> rfl

/-- Once its arguments have values, a directive runs the partial that was fetched. -/
theorem runs_fetched (hquiet : host.Quiet)
    (htouched : Desk.Touches .none (p.add (.enter invocation.tag)).desk q.desk)
    {s : Store C} {compiled : C} {arguments : Option Bindings} {reads : List Path}
    (hfetch : (fetch host setting.files path).start (q.searched setting invocation reference).store =
      (.ok compiled, s))
    (hread : Desk.Touches ⟨0, [], reads, []⟩ (q.searched setting invocation reference).desk s.desk)
    (hvalues : invocation.values q.scope host.unset host.attributes = .ok arguments) :
    Runs host (executeWith host setting (fetch host setting.files) depth)
      ((executeWith host setting (fetch host setting.files) (depth + 1) invocation).start p) p
      (Pass.launched ⟨q.scope, s⟩ invocation reference path arguments) compiled path
      ⟨1, lookedUp setting.files (invocation.candidates setting reference), reads,
        [(path, q.scope.push (argumentLayer arguments))]⟩ := by
  let inclusion := executeWith host setting (fetch host setting.files) depth
  let launched := Pass.launched ⟨q.scope, s⟩ invocation reference path arguments
  have houter (invocation : Invocation) : (executeWith host setting (fetch host setting.files) depth
      invocation).Keeps (Pass.Within fun _ _ => True) := outer_executeWith setting depth invocation
  obtain ⟨r, hrun, hcache, -, hleft⟩ := start_running houter arguments compiled invocation reference path
    ⟨q.scope, s⟩
  have hending : (executeWith host setting (fetch host setting.files) (depth + 1) invocation).start p =
      ((((host.script compiled).play inclusion).start launched).1.mapError (host.leaving path.toString),
        r.add .leave) := by
    rw [start_executeWith, start_fetched heval hcheck hfound hfetch, hvalues]
    dsimp only
    rw [hrun]
  -- What is included adds nothing of the directive's own but records.
  have hplayed := within_play (lasting_grown hquiet (P := fun event => ∃ r, event = .record r)
    (by rintro event ⟨r, rfl⟩; rfl) fun r => ⟨r, rfl⟩) (within_executeWith setting hquiet depth _)
    (host.script compiled) launched
  have hsearched := htouched.append (touches_searched q setting invocation reference)
  have hlaunched := (hsearched.append hread).append
    (touches_launched ⟨q.scope, s⟩ invocation reference path arguments)
  have htouches := (hlaunched.own.append (Desk.ownTouches_of_grown hplayed.desk)).append hleft.own
  refine ⟨by rw [hending], by rw [hending]; exact hcache, ?_⟩
  rw [hending]
  exact htouches.since.trans (by simp [Footprint.append_def, Footprint.none])

end

end

/-- A directive stops in one of its stages or runs its partial, if evaluating its reference enters no
directive, and it touches accordingly. Up to the check of the reference nothing is touched. A reference that
cannot be looked up or is nowhere has the strategy asked once, and leaves the cache alone. A partial that
cannot be fetched is read, and counts as a miss without an entry. In all of these the arguments are not read.
Otherwise the fetch has been a hit or a miss, and the partial runs once where the reference was evaluated, with
the values that the arguments have there in a layer of its own, which is empty if there are none; they have
values if every look-up there has an answer. -/
theorem executeWith_stages {host : Host C} (hquiet : host.Quiet) (setting : Setting) (depth : Nat)
    (invocation : Invocation) (p : Pass C) :
    let inclusion := executeWith host setting (fetch host setting.files) depth
    let evaluated := (effectiveReference host inclusion invocation).start (p.add (.enter invocation.tag))
    let q := evaluated.2
    (∀ event ∈ Trace.since (p.add (.enter invocation.tag)).desk.trace q.desk.trace, event.isPlain = true) →
    let execute := executeWith host setting (fetch host setting.files) (depth + 1)
    let ending := (execute invocation).start p
    let roots := invocation.strategy.roots setting.site setting.document
    (host.ReferencesRead → q.scope = p.scope) ∧
    (∀ fault, evaluated.1 = .error fault → Halts execute invocation p fault .none p.cache) ∧
    ∀ reference, evaluated.1 = .ok reference →
      let paths := invocation.candidates setting reference
      let looked := lookedUp setting.files paths
      (∀ fault, checkReference invocation.tag reference = .error fault →
        Halts execute invocation p fault .none p.cache) ∧
      (checkReference invocation.tag reference = .ok () →
        (∀ fault, found setting.files paths = .error fault →
          Halts execute invocation p fault ⟨1, looked, [], []⟩ p.cache) ∧
        (found setting.files paths = .ok none →
          Halts execute invocation p (.notFound reference roots) ⟨1, looked, [], []⟩ p.cache) ∧
        ∀ path, found setting.files paths = .ok (some path) →
          let fetched := (fetch host setting.files path).start (q.searched setting invocation reference).store
          (∀ fault, fetched.1 = .error fault →
            Halts execute invocation p fault ⟨1, looked, [path], []⟩ p.cache.miss) ∧
          ∀ compiled, fetched.1 = .ok compiled → ∃ reads,
            (fetched.2.cache = p.cache.hit ∧ reads = [] ∨
              fetched.2.cache = p.cache.miss.insert path.toString compiled ∧ reads = [path]) ∧
            (Answers q.scope host.attributes →
              ∃ arguments, invocation.values q.scope host.unset host.attributes = .ok arguments) ∧
            (∀ fault, invocation.values q.scope host.unset host.attributes = .error fault →
              ending.1 = .error fault ∧ ending.2.cache = fetched.2.cache ∧
              Trace.footprint (Trace.since p.desk.trace ending.2.desk.trace) = ⟨1, looked, reads, []⟩) ∧
            ∀ arguments, invocation.values q.scope host.unset host.attributes = .ok arguments →
              Runs host inclusion ending p (Pass.launched ⟨q.scope, fetched.2⟩ invocation reference path arguments)
                compiled path ⟨1, looked, reads, [(path, q.scope.push (argumentLayer arguments))]⟩) := by
  intro inclusion evaluated q halone execute ending roots
  obtain ⟨htouched, hcache⟩ := touches_effectiveReference hquiet setting depth invocation
    (p.add (.enter invocation.tag)) halone
  refine ⟨fun hread => ?_, fun fault hfault => ?_, fun reference hreference => ?_⟩
  · exact scope_effectiveReference hread (lasting_any host)
      (around_executeWith setting hread (lasting_any host) depth) invocation (p.add (.enter invocation.tag))
  · exact halts_of_stages (fun _ => Run.start_bind_error (Prod.ext hfault rfl) _) htouched hcache
  have heval : evaluated = (.ok reference, q) := Prod.ext hreference rfl
  refine ⟨fun fault => halts_refused heval htouched hcache, fun hcheck => ⟨fun fault => ?_, ?_, ?_⟩⟩
  · exact halts_lookup heval htouched hcache hcheck
  · exact halts_nowhere heval htouched hcache hcheck
  intro path hfound fetched
  refine ⟨fun fault hfault => ?_, fun compiled hcompiled => ?_⟩
  · exact halts_fetch heval hcheck hfound hquiet htouched hcache (Prod.ext hfault rfl)
  have hfetch : (fetch host setting.files path).start (q.searched setting invocation reference).store =
      (.ok compiled, fetched.2) := Prod.ext hcompiled rfl
  obtain ⟨reads, hcounted, hread⟩ := touches_fetch_ok hquiet hfetch
  have hstore : (q.searched setting invocation reference).store.cache = p.cache := hcache
  rw [hstore] at hcounted
  refine ⟨reads, hcounted, fun hanswers => values_of_answers hanswers _ invocation, fun fault hfault => ?_,
    fun arguments hvalues => ?_⟩
  · have hending : ending = (.error fault, Pass.add ⟨q.scope, fetched.2⟩ .leave) := by
      show (execute invocation).start p = _
      rw [start_executeWith, start_fetched heval hcheck hfound hfetch, hfault]
    have htouches := (htouched.append (touches_searched q setting invocation reference)).append hread
    rw [hending]
    exact ⟨rfl, rfl, htouches.since.trans (by simp [Footprint.append_def, Footprint.none])⟩
  · exact runs_fetched heval hcheck hfound hquiet htouched hfetch hread hvalues

/-- A page names its partial and an argument by a variable, and the partial is started with them. -/
theorem executeWith_stages_template :
    let host := Template.host .standard ⟨.empty, none⟩ "utf-8"
    let site : Site := ⟨⟨.ofString "/site", ["_includes"], [], "", "utf-8", "\n\n", []⟩⟩
    let files : Files := .ofNodes [(["nav.html".toList], .file [72, 105])]
    let invocation : Invocation :=
      ⟨"include_file", .of "\x7b\x7b name \x7d\x7d title=name".toList, .fixed ["/lib", "/"]⟩
    let p : Pass Template.Compiled := .fresh .empty [("name", .text "nav.html")]
    let ending := (executeWith host ⟨files, site, none⟩ (fetch host files) 1 invocation).start p
    ending.1.toOption = some "Hi" ∧ ending.2.cache.misses = 1 ∧
      ∃ path, Trace.footprint (Trace.own 0 (Trace.since [] ending.2.desk.trace)) =
        ⟨1, [.ofString "/lib/nav.html", path], [path],
          [(path, p.scope.push [(argumentsName, .ofBindings [("title", .text "nav.html")])])]⟩ := by
  intro host site files invocation p ending
  have hquiet : host.Quiet := Template.host_quiet _ _ _
  have hread : host.ReferencesRead := Template.host_referencesRead _ _ _
  let evaluated := (effectiveReference host (executeWith host ⟨files, site, none⟩ (fetch host files) 0)
    invocation).start (p.add (.enter invocation.tag))
  have hplain : (Trace.since (p.add (.enter invocation.tag)).desk.trace evaluated.2.desk.trace).all
      Event.isPlain = true := by decide +kernel
  obtain ⟨hscope, -, hstages⟩ := executeWith_stages hquiet ⟨files, site, none⟩ 0 invocation p
    (List.all_eq_true.1 hplain)
  have hreference : evaluated.1 = .ok "nav.html" := Result.eq_ok_of_toOption (by decide +kernel)
  have hfound : found files (invocation.candidates ⟨files, site, none⟩ "nav.html") =
      .ok (some (.ofString "/nav.html")) := by rfl
  obtain ⟨-, hrunning⟩ := (hstages "nav.html" hreference).2 rfl |>.2.2 _ hfound
  let fetched := (fetch host files (.ofString "/nav.html")).start
    (evaluated.2.searched ⟨files, site, none⟩ invocation "nav.html").store
  have hfetched : fetched.1.isOk = true ∧ fetched.2.cache.misses = 1 := by decide +kernel
  obtain ⟨compiled, hcompiled⟩ : ∃ compiled, fetched.1 = .ok compiled := Result.exists_of_isOk hfetched.1
  obtain ⟨reads, hcounted, -, -, hruns⟩ := hrunning compiled hcompiled
  have hmissed : reads = [.ofString "/nav.html"] := by
    rcases hcounted with ⟨hhit, -⟩ | ⟨-, hreads⟩
    · have hmisses := hfetched.2
      rw [show fetched.2.cache = _ from hhit] at hmisses
      exact absurd hmisses (by decide)
    · exact hreads
  have hvalues : invocation.values evaluated.2.scope host.unset host.attributes =
      .ok (some [("title", .text "nav.html")]) := by
    rw [show evaluated.2.scope = p.scope from hscope hread]
    with_unfolding_all rfl
  have htouched := (hruns _ hvalues).touched
  rw [hmissed, show evaluated.2.scope = p.scope from hscope hread] at htouched
  exact ⟨by decide +kernel, by decide +kernel, _, htouched⟩

end Inclusion

end Transclusion

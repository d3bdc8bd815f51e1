import Transclusion.Proofs.Stages

/-! Where an execution stops.

A script stops at a fault of its own, or within a partial that it includes; a
directive stops in its reference, on the way to its partial, or within that
partial. What is found where it stops (`Stop`) is the row of partials that were
entered and not left, and the fault that arose in the last of them. The fault
that leaves is the one that arose, changed once at every partial of the row
(`Host.issuing`); and of all partials the one in which it arose reports a
failure, if it is wrapped there (`Host.reports`). Both hold of a directive at any
depth (`ends_executeWith`), if compiling itself reports no failed partial. -/
namespace Transclusion

/-- The report of a failed partial, if an event is one. -/
def Event.failure? : Event → Option Record
  | .record r => if r.level = .error ∧ r.wording = "Included file \x7bpath\x7d failed" then some r else none
  | _ => none

/-- The reports of failed partials. -/
def Trace.failures (trace : Trace) : List Record := trace.filterMap Event.failure?

namespace Inclusion
open Directive

variable {C α β : Type}

/-! ### Reports on the desk -/

/-- From one desk to another these failed partials were reported, and no others. -/
def Desk.Reports (reported : List Record) (before after : Desk) : Prop :=
  ∃ events, after.trace = before.trace ++ events ∧ Trace.failures events = reported

namespace Desk.Reports

variable {d e f : Desk} {a b : List Record}

theorem refl (d : Desk) : Reports [] d d := ⟨[], by simp, rfl⟩

theorem append (h : Reports a d e) (h' : Reports b e f) : Reports (a ++ b) d f := by
  obtain ⟨events, he, rfl⟩ := h
  obtain ⟨more, hf, rfl⟩ := h'
  exact ⟨events ++ more, by rw [hf, he, List.append_assoc], List.filterMap_append⟩

theorem trans ⦃d e f : Desk⦄ (h : Reports [] d e) (h' : Reports [] e f) : Reports [] d f := h.append h'

theorem add (d : Desk) {event : Event} (h : event.failure? = none) : Reports [] d (d.add event) :=
  ⟨[event], rfl, by simp [Trace.failures, h]⟩

theorem failed (d : Desk) (path : String) (fault : Fault) :
    Reports [failedRecord path fault] d (d.add (.record (failedRecord path fault))) := ⟨[_], rfl, rfl⟩

theorem since (h : Reports a d e) : Trace.failures (Trace.since d.trace e.trace) = a := by
  obtain ⟨events, he, rfl⟩ := h
  rw [he, Trace.since, List.drop_left]

end Desk.Reports

/-- Compiling reports no failed partials. -/
def Host.Calm (host : Host C) : Prop :=
  ∀ source name, (host.compile source name).Keeps (Desk.Reports [])

theorem failure?_record {r : Record} (h : r.level ≠ .error) : (Event.record r).failure? = none := by
  simp [Event.failure?, h]

theorem Host.Calm.lasting {host : Host C} (h : host.Calm) :
    Lasting host (fun event => event.failure? = none) (Desk.Reports []) :=
  ⟨.refl, Desk.Reports.trans, fun d => .add d, h⟩

/-! ### Where a run stops -/

/-- Where a run stops: the partials that were entered and not left, from the outermost one on, and the
fault that arose in the last of them. -/
structure Stop where
  entered : List Path
  cause : Fault

namespace Stop

/-- The same in one more partial around. -/
def inside (path : Path) (stop : Stop) : Stop := { stop with entered := path :: stop.entered }

end Stop

/-- Runs an inclusion, within a layer of its own if one is given. -/
def framed : Option Bindings → Run (Pass C) α → Run (Pass C) α
  | none, m => m
  | some frame, m => withinLayer frame m

/-- What an inclusion finds in a layer of its own, if one is given. -/
def Pass.framed (p : Pass C) : Option Bindings → Pass C
  | none => p
  | some frame => { p with scope := p.scope.push frame }

/-- The pass behind the record that a span of inclusion opens with. -/
def Pass.opened (p : Pass C) (invocation : Invocation) (reference : String) (path : Path) : Pass C :=
  p.add (.record (.opening "include-executor" "include"
    [("tag", .text invocation.tag), ("reference", .text reference), ("path", .text path.toString)]))

/-- What a script finds that is played for a partial: one more layer, with the arguments if there are any. -/
def Pass.launched (p : Pass C) (invocation : Invocation) (reference : String) (path : Path)
    (arguments : Option Bindings) : Pass C :=
  let scope := match arguments with
    | none => p.scope.push []
    | some bindings => (p.scope.push []).set argumentsName (.ofBindings bindings)
  Pass.add { p.opened invocation reference path with scope } (.start path scope)

/-- Where a script stops; `within` says where its inclusions do. -/
def Script.stop? (inclusion : Invocation → Run (Pass C) String)
    (within : Invocation → Pass C → Option Stop) : Script α → Pass C → Option Stop
  | .done _, _ => none
  | .fail fault, _ => some ⟨[], fault⟩
  | .look next, p => (next p.scope).stop? inclusion within p
  | .bind_ name value next, p => next.stop? inclusion within { p with scope := p.scope.set name value }
  | .call invocation frame next, p =>
    match (framed frame (inclusion invocation)).start p with
    | (.ok text, q) => (next text).stop? inclusion within q
    | (.error _, _) => within invocation (p.framed frame)

section
variable (host : Host C) (setting : Setting)

/-- Compiles a reference. -/
def compileReference (invocation : Invocation) : Run (Pass C) C :=
  Pass.onDesk do
    note (.compile referenceName)
    host.compile (.text invocation.markup.reference) referenceName

/-- Where evaluating a reference stops. -/
def referenceStop? (inclusion : Invocation → Run (Pass C) String)
    (within : Invocation → Pass C → Option Stop) (invocation : Invocation) (p : Pass C) : Option Stop :=
  if invocation.markup.isTemplated then
    match (compileReference host invocation).start p with
    | (.ok compiled, q) => (host.script compiled).stop? inclusion within q
    | (.error fault, _) => some ⟨[], fault⟩
  else none

/-- What comes before the partial of a reference is run: it is found and fetched, and its arguments are
evaluated. -/
def approach (invocation : Invocation) (reference : String) :
    Run (Pass C) (Path × C × Option Bindings) := do
  let path ← Pass.onDesk (findPartial setting invocation reference)
  let compiled ← Pass.onStore (fetch host setting.files path)
  let arguments ← evaluateArguments host invocation
  pure (path, compiled, arguments)

/-- Where a directive stops behind its reference. -/
def partialStop? (inclusion : Invocation → Run (Pass C) String)
    (within : Invocation → Pass C → Option Stop) (invocation : Invocation) (reference : String)
    (p : Pass C) : Option Stop :=
  match (approach host setting invocation reference).start p with
  | (.ok (path, compiled, arguments), q) =>
    ((host.script compiled).stop? inclusion within
      (q.launched invocation reference path arguments)).map (.inside path)
  | (.error fault, _) => some ⟨[], fault⟩

/-- Where the execution of a directive stops, if it does. -/
def stop? : (depth : Nat) → Invocation → Pass C → Option Stop
  | 0, _, _ => some ⟨[], .nesting⟩
  | depth + 1, invocation, p =>
    let inclusion := executeWith host setting (fetch host setting.files) depth
    let entered := p.add (.enter invocation.tag)
    match (effectiveReference host inclusion invocation).start entered with
    | (.ok reference, q) => partialStop? host setting inclusion (stop? depth) invocation reference q
    | (.error _, _) => referenceStop? host inclusion (stop? depth) invocation entered

end

/-! ### What leaves -/

namespace Host

variable (host : Host C)

/-- The fault that leaves: the one that arose, changed at every partial that was entered. -/
def issuing (stop : Stop) : Fault :=
  stop.entered.foldr (fun path fault => host.leaving path.toString fault) stop.cause

/-- What is reported: the innermost of the partials, if the fault that arose there is wrapped. -/
def reports (stop : Stop) : List Record :=
  match stop.entered.getLast? with
  | some path => if host.wraps stop.cause then [failedRecord path.toString stop.cause] else []
  | none => []

/-- What has left a partial is not wrapped at another. -/
theorem wraps_leaving (path : String) (fault : Fault) : host.wraps (host.leaving path fault) = false := by
  unfold leaving
  split
  · rfl
  · split
    · rfl
    · next h => simpa using h

/-- A partial reports the fault that leaves its script, if that is wrapped. -/
theorem reports_inside (path : Path) (stop : Stop) :
    host.reports (stop.inside path) = host.reports stop ++
      if host.wraps (host.issuing stop) then [failedRecord path.toString (host.issuing stop)] else [] := by
  obtain ⟨entered, cause⟩ := stop
  cases entered with
  | nil => rfl
  | cons inner rest =>
    have hleft : host.wraps (host.issuing ⟨inner :: rest, cause⟩) = false := host.wraps_leaving _ _
    rw [hleft, if_neg Bool.false_ne_true, List.append_nil]
    unfold reports Stop.inside
    rw [List.getLast?_cons_cons]

end Host

/-- The fault that a run ended with. -/
def faultOf? {ε : Type} : Except ε α → Option ε
  | .ok _ => none
  | .error fault => some fault

theorem faultOf?_eq_some {ε : Type} {outcome : Except ε α} {fault : ε} :
    faultOf? outcome = some fault ↔ outcome = .error fault := by
  cases outcome <;> simp [faultOf?]

theorem faultOf?_eq_none {ε : Type} {outcome : Except ε α} : faultOf? outcome = none ↔ ∃ a, outcome = .ok a := by
  cases outcome <;> simp [faultOf?]

/-- A run from a pass ends with the fault and the reports that belong to where it stops; if it does not
stop, with a result and without reports. -/
structure Ends (host : Host C) (stop : Option Stop) (p : Pass C) (ending : Except Fault α × Pass C) :
    Prop where
  fault : faultOf? ending.1 = stop.map host.issuing
  reports : Desk.Reports ((stop.map host.reports).getD []) p.desk ending.2.desk

namespace Ends

variable {host : Host C} {stop : Option Stop} {p q r : Pass C}

theorem result (a : α) (h : Desk.Reports [] p.desk q.desk) : Ends host none p (.ok a, q) := ⟨rfl, h⟩

theorem failing (fault : Fault) (h : Desk.Reports [] p.desk q.desk) :
    Ends (α := α) host (some ⟨[], fault⟩) p (.error fault, q) := ⟨rfl, h⟩

theorem before {ending : Except Fault α × Pass C} (h : Desk.Reports [] p.desk q.desk)
    (he : Ends host stop q ending) : Ends host stop p ending := ⟨he.fault, h.append he.reports⟩

theorem behind {outcome : Except Fault α} (he : Ends host stop p (outcome, q))
    (h : Desk.Reports [] q.desk r.desk) : Ends host stop p (outcome, r) := by
  have hreports := he.reports.append h
  rw [List.append_nil] at hreports
  exact ⟨he.fault, hreports⟩

/-- What stops with a fault goes no further. -/
theorem halt {fault : Fault} (he : Ends (α := α) host stop p (.error fault, q)) :
    Ends (α := β) host stop p (.error fault, q) := ⟨he.fault, he.reports⟩

/-- A run with a result stops nowhere, and reports nothing. -/
theorem calm {a : α} (he : Ends host stop p (.ok a, q)) : Desk.Reports [] p.desk q.desk := by
  obtain ⟨hfault, hreports⟩ := he
  cases stop with
  | none => exact hreports
  | some stop => simp [faultOf?] at hfault

end Ends

/-! ### Scripts and partials -/

section
variable {host : Host C} {inclusion : Invocation → Run (Pass C) String}
  {within : Invocation → Pass C → Option Stop} {stop : Option Stop} {p : Pass C}

/-- The layer around an inclusion is popped, and nothing else is changed. -/
theorem ends_framed {m : Run (Pass C) α} {frame : Option Bindings}
    (hm : Pass.Within (fun _ _ => True) (p.framed frame) (m.start (p.framed frame)).2)
    (h : Ends host stop (p.framed frame) (m.start (p.framed frame))) :
    Ends host stop p ((framed frame m).start p) := by
  cases frame with
  | none => exact h
  | some frame =>
    have hleave := Pass.leaveLayer_of_outer (p := p) hm.outer
    show Ends host stop p ((m.finallyDo Pass.leaveLayer).start (p.framed (some frame)))
    rw [Run.start_finallyDo, hleave]
    exact ⟨h.fault, h.reports⟩

theorem ends_withinSpan {m : Run (Pass C) α} {tag operation : String} {particulars : Bindings}
    (h : Ends host stop (p.add (.record (.opening tag operation particulars)))
      (m.start (p.add (.record (.opening tag operation particulars))))) :
    Ends host stop p ((withinSpan tag operation particulars m).start p) := by
  have hopening : Desk.Reports [] p.desk (p.add (.record (.opening tag operation particulars))).desk :=
    .add _ (failure?_record (by simp [Record.opening]))
  exact (h.before hopening).behind (.add _ (failure?_record (by simp [Record.closing])))

section
variable (hwithin : ∀ invocation, (inclusion invocation).Keeps (Pass.Within fun _ _ => True))
  (hinclusion : ∀ invocation p, Ends host (within invocation p) p ((inclusion invocation).start p))
include hwithin hinclusion

theorem ends_play (script : Script α) (p : Pass C) :
    Ends host (script.stop? inclusion within p) p ((script.play inclusion).start p) := by
  induction script generalizing p with
  | done a => exact .result a (.refl _)
  | fail fault => exact .failing fault (.refl _)
  | look next ih => exact ih p.scope p
  | bind_ name value next ih =>
    have h := ih { p with scope := p.scope.set name value }
    exact ⟨h.fault, h.reports⟩
  | call invocation frame next ih =>
    have hframed := ends_framed (hwithin invocation _) (hinclusion invocation (p.framed frame))
    have hplay : (Script.call invocation frame next).play inclusion =
        framed frame (inclusion invocation) >>= fun text => (next text).play inclusion := by
      cases frame <;> rfl
    rw [hplay, Run.start_bind, Script.stop?]
    rcases hrun : (framed frame (inclusion invocation)).start p with ⟨fault | text, q⟩ <;>
      rw [hrun] at hframed
    · exact hframed.halt
    · exact (ih text q).before hframed.calm

end

/-- At a partial a fault is wrapped and reported, or extended, or passes. -/
theorem ends_onFault {m : Run (Pass C) α} (path : Path) (h : Ends host stop p (m.start p)) :
    Ends host (stop.map (.inside path)) p ((m.onFault fun fault => do
      if host.wraps fault then Pass.onDesk (record (failedRecord path.toString fault))
      throw (host.leaving path.toString fault)).start p) := by
  rw [Run.start_onFault]
  rcases hm : m.start p with ⟨fault | a, q⟩ <;> rw [hm] at h <;> obtain ⟨hfault, hreports⟩ := h <;>
    rcases stop with _ | stop
  · simp [faultOf?] at hfault
  · obtain rfl : fault = host.issuing stop := Option.some.inj hfault
    have hinside := host.reports_inside path stop
    by_cases hwraps : host.wraps (host.issuing stop) = true
    · simp only [if_pos hwraps] at hinside ⊢
      refine ⟨rfl, ?_⟩
      show Desk.Reports (host.reports (stop.inside path)) _ _
      rw [hinside]
      exact hreports.append (.failed _ _ _)
    · simp only [if_neg hwraps, List.append_nil] at hinside ⊢
      refine ⟨rfl, ?_⟩
      show Desk.Reports (host.reports (stop.inside path)) _ _
      rw [hinside]
      exact hreports
  · exact ⟨rfl, hreports⟩
  · simp [faultOf?] at hfault

/-- A partial ends as its script does, with one partial more around. -/
theorem ends_runWith {invocation : Invocation} {reference : String} {compiled : C} {path : Path}
    {arguments : Option Bindings}
    (h : Ends host stop (p.launched invocation reference path arguments)
      (((host.script compiled).play inclusion).start (p.launched invocation reference path arguments))) :
    let layered := (p.opened invocation reference path).framed (some [])
    Ends host (stop.map (.inside path)) layered
      ((runWith host inclusion arguments compiled path).start layered) := by
  intro layered
  have hstart : Desk.Reports [] layered.desk (p.launched invocation reference path arguments).desk :=
    .add _ rfl
  have hrun := ends_onFault path h
  cases arguments with
  | none => exact hrun.before hstart
  | some values => exact hrun.before hstart

end

/-! ### The whole directive -/

section
variable {host : Host C} (hcalm : host.Calm) (setting : Setting)
  {inclusion : Invocation → Run (Pass C) String} {within : Invocation → Pass C → Option Stop}

theorem includeReference_eq (invocation : Invocation) (reference : String) :
    includeReference host setting (fetch host setting.files) inclusion invocation reference =
      approach host setting invocation reference >>= fun (path, compiled, arguments) =>
        withinSpan "include-executor" "include"
          [("tag", .text invocation.tag), ("reference", .text reference), ("path", .text path.toString)]
          (framed (some []) (runWith host inclusion arguments compiled path)) := by
  unfold includeReference approach
  simp only [bind_assoc, pure_bind]
  rfl

/-- Whatever is included, of the scope a directive changes the innermost layer at most. -/
theorem outer_executeWith (depth : Nat) (invocation : Invocation) :
    (executeWith host setting (fetch host setting.files) depth invocation).Keeps
      (Pass.Within fun _ _ => True) := by
  induction depth generalizing invocation with
  | zero => exact .throw (lasting_any host).within_refl _
  | succ depth ih =>
    intro p
    have hstages := within_stages setting invocation (p.add (.enter invocation.tag))
      ((lasting_any host).mono fun _ _ => trivial) ih
    exact ⟨hstages.outer, trivial⟩

include hcalm

/-- On its way to a partial a directive reports nothing. -/
theorem calm_approach (invocation : Invocation) (reference : String) :
    (approach host setting invocation reference).Keeps fun p q => Desk.Reports [] p.desk q.desk := by
  have lasting := hcalm.lasting
  refine Run.Keeps.mono (R := Pass.Around (Desk.Reports [])) ?_ fun _ _ => Pass.Around.desk
  refine .bind lasting.around_trans (Pass.around_onDesk ?_) fun path => ?_
  · exact keeps_findPartial lasting setting invocation reference (fun _ => failure?_record) (fun _ => rfl)
      fun _ _ => rfl
  refine .bind lasting.around_trans (Pass.around_onStore ?_) fun compiled => ?_
  · exact keeps_fetch lasting setting.files path (fun _ => failure?_record) (fun _ => rfl) rfl
  exact .bind lasting.around_trans (around_evaluateArguments lasting invocation) fun arguments =>
    .pure lasting.around_refl _

variable (hwithin : ∀ invocation, (inclusion invocation).Keeps (Pass.Within fun _ _ => True))
  (hinclusion : ∀ invocation p, Ends host (within invocation p) p ((inclusion invocation).start p))
include hwithin hinclusion

theorem ends_effectiveReference (invocation : Invocation) (p : Pass C) :
    Ends host (referenceStop? host inclusion within invocation p) p
      ((effectiveReference host inclusion invocation).start p) := by
  unfold referenceStop?
  by_cases htemplated : invocation.markup.isTemplated = true
  · have heq : effectiveReference host inclusion invocation =
        compileReference host invocation >>= fun compiled => (host.script compiled).play inclusion := by
      unfold effectiveReference
      rw [if_pos htemplated]
      rfl
    have compiling : (compileReference (C := C) host invocation).Keeps fun p q => Desk.Reports [] p.desk q.desk :=
      (Pass.around_onDesk (hcalm.lasting.bind (hcalm.lasting.note rfl) fun _ => hcalm _ _)).mono
        fun _ _ => Pass.Around.desk
    have hcompile := compiling p
    rw [if_pos htemplated, heq, Run.start_bind]
    rcases hc : (compileReference host invocation).start p with ⟨fault | compiled, q⟩ <;> rw [hc] at hcompile
    · exact .failing fault hcompile
    · exact (ends_play hwithin hinclusion _ q).before hcompile
  · rw [if_neg htemplated]
    unfold effectiveReference
    rw [if_neg htemplated]
    exact .result _ (.refl _)

theorem ends_includeReference (invocation : Invocation) (reference : String) (p : Pass C) :
    Ends host (partialStop? host setting inclusion within invocation reference p) p
      ((includeReference host setting (fetch host setting.files) inclusion invocation reference).start p) := by
  have happroach := calm_approach hcalm setting invocation reference p
  rw [includeReference_eq, Run.start_bind, partialStop?]
  rcases hrun : (approach host setting invocation reference).start p with
    ⟨fault | ⟨path, compiled, arguments⟩, q⟩ <;> rw [hrun] at happroach
  · exact .failing fault happroach
  · have hscript := ends_play hwithin hinclusion (host.script compiled)
      (q.launched invocation reference path arguments)
    -- The layer of the partial is popped, for its script changes the innermost layer at most.
    let layered := (q.opened invocation reference path).framed (some [])
    have hkept : Pass.Within (fun _ _ => True) layered
        ((runWith host inclusion arguments compiled path).start layered).2 :=
      within_runWith (lasting_any host) hwithin (fun _ => trivial) fun _ _ => trivial
    exact (ends_withinSpan (ends_framed hkept (ends_runWith hscript))).before happroach

end

/-- At every depth a directive ends as belongs to where it stops. -/
theorem ends_executeWith {host : Host C} (hcalm : host.Calm) (setting : Setting) (depth : Nat)
    (invocation : Invocation) (p : Pass C) :
    Ends host (stop? host setting depth invocation p) p
      ((executeWith host setting (fetch host setting.files) depth invocation).start p) := by
  induction depth generalizing invocation p with
  | zero => exact .failing .nesting (.refl _)
  | succ depth ih =>
    have hwithin (invocation : Invocation) : (executeWith host setting (fetch host setting.files) depth
        invocation).Keeps (Pass.Within fun _ _ => True) := outer_executeWith setting depth invocation
    let entered := p.add (.enter invocation.tag)
    have hentered : Desk.Reports [] p.desk entered.desk := .add _ rfl
    have hleave (q : Pass C) : Desk.Reports [] q.desk (q.add .leave).desk := .add _ rfl
    have hreference := ends_effectiveReference hcalm hwithin ih invocation entered
    show Ends host _ p (((stages host setting (fetch host setting.files) _ invocation).finallyDo
      fun p => .ok (p.add .leave)).start entered)
    rw [Run.start_finallyDo, stages, Run.start_bind, stop?]
    refine .before hentered (.behind ?_ (hleave _))
    rcases hrun : (effectiveReference host (executeWith host setting (fetch host setting.files) depth)
      invocation).start entered with ⟨fault | reference, q⟩ <;> rw [hrun] at hreference
    · exact hreference.halt
    · exact (ends_includeReference hcalm setting hwithin ih invocation reference q).before hreference.calm

end Inclusion

end Transclusion

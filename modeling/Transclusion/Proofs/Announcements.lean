import Transclusion.Proofs.Renders

/-! What is announced.

Preparations leave no trace of their own, so what is announced at them is told by a second
run beside the first: one without notices that marks in its trace every preparation before it
is made (`Registry.watch`). On the two desks all else is the same; the trace of the first is
that of the second with the first mark of every directive made the notice on it, if there is
one, and the other marks left out (`Told`). Preparing keeps that (`agree_prepare_watch`), and
so does whatever reaches the desk through preparing alone, as a host and what else is made of a
way of preparing owe it (`Workshop.Even`): compiling, directives at any depth, renders. What is
shown in all is then read off the marks (`announcedBy_once`, `announced_once`). -/
namespace Transclusion

open Directive Inclusion

/-! ### Marks -/

/-- The mark of a preparation: the directive and its markup. -/
def Event.mark (tag : String) (markup : List Char) : Event := .record ⟨.info, tag, String.ofList markup, []⟩

/-- The directive whose preparation an event marks. -/
def Event.marked? : Event → Option String
  | .record r => if r.level = .info then some r.tag else none
  | _ => none

@[simp] theorem Event.marked?_mark (tag : String) (markup : List Char) : (mark tag markup).marked? = some tag := rfl

theorem Event.marked?_of_isRoutine {event : Event} (h : event.isRoutine = true) : event.marked? = none := by
  cases event with
  | record r =>
    simp only [isRoutine, Bool.not_eq_true', Bool.or_eq_false_iff, beq_eq_false_iff_ne] at h
    rw [marked?, if_neg h.2]
  | _ => rfl

namespace Trace

/-- The directives whose preparations are marked, in that order. -/
def marked (t : Trace) : List String := t.filterMap Event.marked?

/-- The notices of a trace. -/
def notices (t : Trace) : List Record := t.records.filter Record.isNotice

theorem marked_append (t u : Trace) : (t ++ u).marked = t.marked ++ u.marked := List.filterMap_append ..

theorem notices_append (t u : Trace) : (t ++ u).notices = t.notices ++ u.notices := by
  rw [notices, records, List.filterMap_append, List.filter_append]
  rfl

theorem notices_of_isRoutine {event : Event} (h : event.isRoutine = true) : notices [event] = [] := by
  cases event with
  | record r =>
    simp only [Event.isRoutine, Bool.not_eq_true', Bool.or_eq_false_iff] at h
    simp [notices, records, h.1]
  | _ => rfl

/-- Events that a stage notes, and marks. -/
def IsWatched (t : Trace) : Prop := ∀ event ∈ t, event.isRoutine = true ∨ ∃ tag, event.marked? = some tag

end Trace

namespace Directive.Registry

/-- Prepares invocations without showing notices, and marks that it does. -/
def watch (registry : Registry) : Preparing := fun tag markup => do
  note (.mark tag markup)
  Clerk.prepare ⟨registry, none⟩ tag markup

end Directive.Registry

namespace Inclusion.Clerk

variable (clerk : Clerk)

/-- The notice on a directive: there is one if the directive is registered with words that are not empty, and
if the clerk shows notices at all. -/
def notice (tag : String) : Option Record := do
  let noticeTag ← clerk.noticeTag
  let entry ← clerk.registry.find? tag
  let detail ← entry.deprecation.filter (· ≠ "")
  some (Notices.record noticeTag tag detail [("directive", .text tag)])

/-- A trace with the first mark of every directive that is not among those seen made the notice on it, and without
the other marks. -/
def told (seen : List String) : Trace → Trace
  | [] => []
  | event :: rest => match event.marked? with
    | none => event :: told seen rest
    | some tag =>
      (if tag ∈ seen then [] else (clerk.notice tag).toList.map .record) ++ told (tag :: seen) rest

theorem told_unmarked {event : Event} (h : event.marked? = none) (seen : List String) (rest : Trace) :
    clerk.told seen (event :: rest) = event :: clerk.told seen rest := by
  rw [told, h]

theorem told_marked {event : Event} {tag : String} (h : event.marked? = some tag) (seen : List String)
    (rest : Trace) :
    clerk.told seen (event :: rest) =
      (if tag ∈ seen then [] else (clerk.notice tag).toList.map .record) ++ clerk.told (tag :: seen) rest := by
  rw [told, h]

theorem told_append (seen : List String) (t u : Trace) :
    clerk.told seen (t ++ u) = clerk.told seen t ++ clerk.told (t.marked.reverse ++ seen) u := by
  induction t generalizing seen with
  | nil => rfl
  | cons event rest ih =>
    cases hmarked : event.marked? with
    | none =>
      have hrest : Trace.marked (event :: rest) = Trace.marked rest := List.filterMap_cons_none hmarked
      rw [List.cons_append, clerk.told_unmarked hmarked, clerk.told_unmarked hmarked, ih, hrest, List.cons_append]
    | some tag =>
      have hrest : Trace.marked (event :: rest) = tag :: Trace.marked rest := List.filterMap_cons_some hmarked
      rw [List.cons_append, clerk.told_marked hmarked, clerk.told_marked hmarked, ih, hrest, List.reverse_cons,
        List.append_assoc, List.append_assoc, List.singleton_append]

theorem isNotice_of_notice {tag : String} {r : Record} (h : clerk.notice tag = some r) : r.isNotice = true := by
  simp only [notice, Option.bind_eq_bind, Option.bind_eq_some_iff] at h
  obtain ⟨noticeTag, -, entry, -, detail, -, hr⟩ := h
  cases hr
  simp [Record.isNotice, Notices.record]

theorem notices_notice (tag : String) :
    Trace.notices ((clerk.notice tag).toList.map .record) = (clerk.notice tag).toList := by
  cases h : clerk.notice tag with
  | none => rfl
  | some r => simp [Trace.notices, Trace.records, clerk.isNotice_of_notice h]

theorem filter_unseen_cons (tag : String) (seen tags : List String) :
    tags.filter (· ∉ tag :: seen) = (tags.filter (· ∉ seen)).filter fun other => !(other == tag) := by
  rw [List.filter_filter]
  refine List.filter_congr fun other _ => ?_
  by_cases heq : other = tag <;> simp [heq]

theorem filter_unseen_of_mem {tag : String} {seen : List String} (h : tag ∈ seen) (tags : List String) :
    tags.filter (· ∉ tag :: seen) = tags.filter (· ∉ seen) := by
  refine List.filter_congr fun other _ => decide_eq_decide.2 (not_congr ?_)
  exact ⟨fun hother => (List.mem_cons.1 hother).elim (fun heq => heq ▸ h) id, List.mem_cons_of_mem tag⟩

/-- Without notices the marks are left out. -/
theorem told_silent (registry : Registry) (seen : List String) (t : Trace) :
    told ⟨registry, none⟩ seen t = t.filter (·.marked?.isNone) := by
  induction t generalizing seen with
  | nil => rfl
  | cons event rest ih =>
    cases hmarked : event.marked? with
    | none => rw [told_unmarked _ hmarked, ih, List.filter_cons_of_pos (by rw [hmarked]; rfl)]
    | some tag =>
      rw [told_marked _ hmarked, ih, List.filter_cons_of_neg (by rw [hmarked]; exact Bool.false_ne_true)]
      exact congrArg (· ++ rest.filter (·.marked?.isNone)) (ite_self [])

/-- What is shown in all: the notice on each directive that is marked, once, in the order of the first marks. -/
theorem notices_told {t : Trace} (h : t.IsWatched) (seen : List String) :
    (clerk.told seen t).notices = ((t.marked.filter (· ∉ seen)).eraseDups).filterMap clerk.notice := by
  induction t generalizing seen with
  | nil => rfl
  | cons event rest ih =>
    have hlater := ih (fun other hother => h other (List.mem_cons_of_mem _ hother))
    rcases h event (List.mem_cons_self ..) with hroutine | ⟨tag, hmarked⟩
    · have hunmarked := Event.marked?_of_isRoutine hroutine
      have hrest : Trace.marked (event :: rest) = Trace.marked rest := List.filterMap_cons_none hunmarked
      rw [clerk.told_unmarked hunmarked, ← List.singleton_append, Trace.notices_append,
        Trace.notices_of_isRoutine hroutine, List.nil_append, hlater, hrest]
    · have hrest : Trace.marked (event :: rest) = tag :: Trace.marked rest := List.filterMap_cons_some hmarked
      rw [clerk.told_marked hmarked, Trace.notices_append, hlater, hrest]
      by_cases hmem : tag ∈ seen
      · rw [if_pos hmem, List.filter_cons_of_neg (by simpa using hmem), filter_unseen_of_mem hmem]
        rfl
      · rw [if_neg hmem, List.filter_cons_of_pos (by simpa using hmem), List.eraseDups_cons, notices_notice,
          filter_unseen_cons]
        cases hnotice : clerk.notice tag with
        | none => rw [List.filterMap_cons_none hnotice]; rfl
        | some r => rw [List.filterMap_cons_some hnotice]; rfl

/-! ### Beside a watched desk -/

theorem notice_eq (tag : String) :
    clerk.notice tag = (clerk.notice? tag).map fun words =>
      Notices.record words.1 tag words.2 [("directive", .text tag)] := by
  unfold notice notice? Registry.entry
  cases clerk.noticeTag with
  | none => rfl
  | some noticeTag =>
    cases clerk.registry.find? tag with
    | none => rfl
    | some entry =>
      simp only [Option.bind_eq_bind, Option.bind_some]
      cases entry.deprecation.filter (· ≠ "") <;> rfl

theorem isSome_notice (tag : String) : (clerk.notice tag).isSome = (clerk.notice? tag).isSome := by
  rw [notice_eq, Option.isSome_map]

theorem trace_announced (tag : String) (d : Desk) : (clerk.announced tag d).trace =
    d.trace ++ if d.notices.has tag then [] else (clerk.notice tag).toList.map .record := by
  unfold announced
  rw [notice_eq]
  cases clerk.notice? tag with
  | none => simp
  | some words =>
    simp only [Option.map_some, Option.toList_some, List.map_cons, List.map_nil]
    split
    · rw [List.append_nil]
    · rfl

/-- A desk beside one on which preparations are marked instead of announced: the same is remembered on both, what
has been shown is what has been marked, and the traces differ in notices and marks only. -/
structure Told (d e : Desk) : Prop where
  memo : d.memo = e.memo
  shown (tag : String) : d.notices.has tag = true ↔ tag ∈ e.trace.marked ∧ (clerk.notice tag).isSome = true
  trace : d.trace = clerk.told [] e.trace
  watched : e.trace.IsWatched

variable {clerk} {d e : Desk}

theorem told_empty (clerk : Clerk) : clerk.Told .empty .empty where
  memo := rfl
  shown tag := by simp [Desk.empty, Notices.empty, Notices.has, Trace.marked]
  trace := rfl
  watched := fun _ h => nomatch h

theorem Told.add (h : clerk.Told d e) {event : Event} (hroutine : event.isRoutine = true) :
    clerk.Told (d.add event) (e.add event) where
  memo := h.memo
  shown tag := by
    have hmarked : (e.add event).trace.marked = e.trace.marked := by
      have hunmarked := Event.marked?_of_isRoutine hroutine
      rw [Desk.add, Trace.marked_append]
      simp [Trace.marked, hunmarked]
    rw [hmarked]
    exact h.shown tag
  trace := by
    rw [Desk.add, Desk.add, h.trace, told_append, clerk.told_unmarked (Event.marked?_of_isRoutine hroutine)]
    rfl
  watched other hother := (List.mem_append.1 hother).elim (h.watched other)
    fun hlast => .inl (List.mem_singleton.1 hlast ▸ hroutine)

/-- Behind an announcement the desk stands beside the one behind the mark. -/
theorem Told.announced (h : clerk.Told d e) (tag : String) (markup : List Char) :
    clerk.Told (clerk.announced tag d) (e.add (.mark tag markup)) where
  memo := (clerk.memo_announced tag d).trans h.memo
  shown other := by
    have hmarked : other ∈ Trace.marked [Event.mark tag markup] ↔ other = tag := List.mem_singleton
    rw [has_announced, Bool.or_eq_true, Bool.and_eq_true, beq_iff_eq, h.shown, Desk.add, Trace.marked_append,
      List.mem_append, hmarked, or_and_right]
    refine or_congr_right (and_congr_right fun heq => ?_)
    rw [heq, isSome_notice]
  trace := by
    have hmark : clerk.told e.trace.marked.reverse [.mark tag markup] =
        if d.notices.has tag then [] else (clerk.notice tag).toList.map .record := by
      rw [clerk.told_marked (Event.marked?_mark tag markup), told, List.append_nil]
      have hshown := h.shown tag
      cases hnotice : clerk.notice tag with
      | none => simp
      | some r =>
        rw [hnotice, Option.isSome_some, eq_self, and_true, ← List.mem_reverse] at hshown
        simp only [hshown]
    rw [trace_announced, h.trace, Desk.add, told_append, List.append_nil, hmark]
  watched other hother := (List.mem_append.1 hother).elim (h.watched other)
    fun hlast => .inr ⟨tag, List.mem_singleton.1 hlast ▸ rfl⟩

/-- Watching changes the desk by the mark alone. -/
theorem start_watch (registry : Registry) (tag : String) (markup : List Char) (d : Desk) :
    (registry.watch tag markup).start d = (prepared ⟨registry, none⟩ tag markup, d.add (.mark tag markup)) := by
  unfold Registry.watch
  rw [Run.start_bind]
  exact start_prepare ⟨registry, none⟩ tag markup (d.add (.mark tag markup))

/-- Preparing comes to the same where it is only watched. -/
theorem agree_prepare_watch (tag : String) (markup : List Char) :
    Run.Agree clerk.Told (clerk.prepare tag markup) (clerk.registry.watch tag markup) := by
  intro d e h
  rw [start_prepare, start_watch]
  exact ⟨rfl, h.announced tag markup⟩

theorem agree_remembered_watch (tag : String) (markup : List Char) :
    Run.Agree clerk.Told (rememberedBy clerk.prepare tag markup) (rememberedBy clerk.registry.watch tag markup) :=
  agree_rememberedBy (fun _ _ h => h.memo) (fun _ _ _ h => ⟨rfl, h.shown, h.trace, h.watched⟩) agree_prepare_watch
    tag markup

end Inclusion.Clerk

/-! ### Errands -/

/-- What is made of a way of preparing: a host, and how a source is rendered outside of any pass. -/
structure Workshop (C : Type) where
  host : Preparing → Host C
  bare : Preparing → List Char → Bindings → Run (Pass C) String

/-- What a workshop owes a clerk: it asks for invocations and does no more to a desk than stages do, so that it
comes to the same where preparations are only watched. -/
structure Workshop.Even {C : Type} (w : Workshop C) (clerk : Clerk) : Prop where
  host : (w.host clerk.prepare).Even (w.host clerk.registry.watch).compile clerk.Told
  /-- Hosts differ in how they compile. -/
  host_eq : w.host clerk.registry.watch = (w.host clerk.prepare).compilingBy (w.host clerk.registry.watch).compile
  bare (source : List Char) (bindings : Bindings) :
    Run.Agree (Pass.Level clerk.Told) (w.bare clerk.prepare source bindings)
      (w.bare clerk.registry.watch source bindings)

namespace Renderer

variable {C : Type} (r : Renderer)

/-- Runs in a pass with this scope and this cache. -/
def inPass {α : Type} (scope : Scope) (cache : Cache C) (m : Run (Pass C) α) : Run Desk α :=
  .zoom (fun desk => ⟨scope, cache, desk⟩) (fun p _ => p.desk) m

/-- What reaches the desk of a renderer. -/
inductive Errand (C : Type) where
  /-- A directive is prepared. -/
  | prepare (tag : String) (markup : List Char)
  /-- A directive is met, and prepared unless its invocation is remembered. -/
  | meet (tag : String) (markup : List Char)
  | compile (source : Source) (name : String)
  /-- An invocation is executed, in a pass that may be under way. -/
  | execute (setting : Setting) (scope : Scope) (cache : Cache C) (invocation : Invocation)
  | render (files : Files) (call : Call)
  /-- A source is rendered outside of any pass. -/
  | outside (source : List Char) (bindings : Bindings)

namespace Errand

/-- What comes of an errand that does not fail. -/
inductive Answer (C : Type) where
  | invocation (invocation : Invocation)
  | template (compiled : C)
  | text (text : String)

/-- What an errand runs. -/
def run : Errand Template.Compiled → Run Desk (Answer Template.Compiled)
  | prepare tag markup => do return .invocation (← r.clerk.prepare tag markup)
  | meet tag markup => do return .invocation (← r.clerk.remembered tag markup)
  | compile source name => do return .template (← r.host.compile source name)
  | execute setting scope cache invocation => do
    return .text (← inPass scope cache (Inclusion.execute r.host setting invocation))
  | render files call => do return .text (← call.run r files)
  | outside source bindings => do return .text (← r.renderOutside source bindings)

/-- What an errand runs, with invocations prepared in some way, and in a workshop in place of the renderer's own. -/
def runBy (w : Workshop C) (prepare : Preparing) : Errand C → Run Desk (Answer C)
  | .prepare tag markup => do return .invocation (← prepare tag markup)
  | meet tag markup => do return .invocation (← rememberedBy prepare tag markup)
  | compile source name => do return .template (← (w.host prepare).compile source name)
  | execute setting scope cache invocation => do
    return .text (← inPass scope cache (Inclusion.execute (w.host prepare) setting invocation))
  | render files call => do return .text (← call.runBy r (w.host prepare) files)
  | outside source bindings => do return .text (← inFreshPass (w.bare prepare source bindings))

/-- Does errands one after another, whatever they end with: what each comes to, and the desk behind. -/
def allBy (w : Workshop C) (prepare : Preparing) : List (Errand C) → Desk →
    List (Except Fault (Answer C)) × Desk
  | [], desk => ([], desk)
  | errand :: rest, desk =>
    let (outcome, next) := (errand.runBy r w prepare).start desk
    let (outcomes, last) := allBy w prepare rest next
    (outcome :: outcomes, last)

end Errand

/-! ### Errands side by side -/

theorem agree_inPass {R : Desk → Desk → Prop} {α : Type} {m n : Run (Pass C) α} (scope : Scope) (cache : Cache C)
    (h : m.Agree (Pass.Level R) n) : Run.Agree R (inPass scope cache m) (inPass scope cache n) := by
  intro d e hdesk
  obtain ⟨houtcome, hlevel⟩ := h ⟨scope, cache, d⟩ ⟨scope, cache, e⟩ ⟨rfl, rfl, hdesk⟩
  exact ⟨houtcome, hlevel.desk⟩

section
variable {w : Workshop C} {clerk : Clerk} (heven : w.Even clerk)
include heven

/-- An errand comes to the same where preparations are only watched. -/
theorem agree_errand (errand : Errand C) :
    Run.Agree clerk.Told (errand.runBy r w clerk.prepare) (errand.runBy r w clerk.registry.watch) := by
  cases errand with
  | prepare tag markup => exact .bind (Clerk.agree_prepare_watch tag markup) fun _ => .pure _
  | meet tag markup => exact .bind (Clerk.agree_remembered_watch tag markup) fun _ => .pure _
  | compile source name => exact .bind (heven.host.compile source name) fun _ => .pure _
  | execute setting scope cache invocation =>
    have hlevel := level_executeWith heven.host setting (w.host clerk.prepare).nesting invocation
    rw [Errand.runBy, Errand.runBy, heven.host_eq]
    exact .bind (agree_inPass scope cache hlevel) fun _ => .pure _
  | render files call =>
    have hlevel := r.level_runInBy heven.host files call
    rw [← heven.host_eq] at hlevel
    exact .bind (agree_inPass _ _ hlevel) fun _ => .pure _
  | outside source bindings => exact .bind (agree_inPass _ _ (heven.bare source bindings)) fun _ => .pure _

/-- So do errands one after another. -/
theorem told_allBy (errands : List (Errand C)) {d e : Desk} (h : clerk.Told d e) :
    let told := Errand.allBy r w clerk.prepare errands d
    let watched := Errand.allBy r w clerk.registry.watch errands e
    told.1 = watched.1 ∧ clerk.Told told.2 watched.2 := by
  induction errands generalizing d e with
  | nil => exact ⟨rfl, h⟩
  | cons errand rest ih =>
    obtain ⟨houtcome, hnext⟩ := r.agree_errand heven errand d e h
    obtain ⟨houtcomes, hlast⟩ := ih hnext
    exact ⟨List.cons_eq_cons.2 ⟨houtcome, houtcomes⟩, hlast⟩

end

/-- Of directives that are only prepared the marks are in their order. -/
theorem marked_prepares (w : Workshop C) (registry : Registry) (calls : List (String × List Char)) (desk : Desk) :
    (Errand.allBy r w registry.watch (calls.map fun call => .prepare call.1 call.2) desk).2.trace.marked =
      desk.trace.marked ++ calls.map Prod.fst := by
  induction calls generalizing desk with
  | nil => exact (List.append_nil _).symm
  | cons call rest ih =>
    have hdesk : (((Errand.prepare call.1 call.2).runBy r w registry.watch).start desk).2 =
        desk.add (.mark call.1 call.2) := by
      rw [Errand.runBy, Run.start_bind, Clerk.start_watch]
      cases Clerk.prepared ⟨registry, none⟩ call.1 call.2 <;> rfl
    show (Errand.allBy r w registry.watch (rest.map _)
      (((Errand.prepare call.1 call.2).runBy r w registry.watch).start desk).2).2.trace.marked = _
    rw [hdesk, ih, Desk.add, Trace.marked_append, List.append_assoc]
    rfl

/-- In a workshop that owes it to clerks with and without notices, errands with notices, without them and with
every preparation marked come to the same, and what is shown with notices is read off the marks. -/
theorem announcedBy_once (w : Workshop C) (registry : Registry) (hw : ∀ noticeTag, w.Even ⟨registry, noticeTag⟩)
    (noticeTag : String) (errands : List (Errand C)) :
    let clerk : Clerk := ⟨registry, some noticeTag⟩
    let silent : Clerk := ⟨registry, none⟩
    let told := Errand.allBy r w clerk.prepare errands .empty
    let untold := Errand.allBy r w silent.prepare errands .empty
    let watched := Errand.allBy r w registry.watch errands .empty
    (∀ tag markup d e, ((clerk.prepare tag markup).start d).1 = ((silent.prepare tag markup).start e).1) ∧
    (told.1 = untold.1 ∧ untold.1 = watched.1) ∧
    untold.2.trace = watched.2.trace.filter (·.marked?.isNone) ∧
    told.2.trace = clerk.told [] watched.2.trace ∧
    told.2.trace.notices = watched.2.trace.marked.eraseDups.filterMap clerk.notice ∧
    ∀ calls : List (String × List Char), errands = calls.map (fun call => .prepare call.1 call.2) →
      watched.2.trace.marked = calls.map Prod.fst := by
  intro clerk silent told untold watched
  obtain ⟨htold, hdesk⟩ := r.told_allBy (hw (some noticeTag)) errands (Clerk.told_empty clerk)
  obtain ⟨huntold, hsilent⟩ := r.told_allBy (hw none) errands (Clerk.told_empty silent)
  have hnotices := clerk.notices_told hdesk.watched []
  rw [List.filter_eq_self.2 (fun tag _ => by simp)] at hnotices
  refine ⟨fun tag markup d e => ?_, ⟨htold.trans huntold.symm, huntold⟩, ?_, hdesk.trace, ?_, fun calls hcalls => ?_⟩
  · rw [Clerk.start_prepare, Clerk.start_prepare]
    rfl
  · rw [← Clerk.told_silent registry []]
    exact hsilent.trace
  · rw [← hnotices, ← hdesk.trace]
  · show (Errand.allBy r w registry.watch errands .empty).2.trace.marked = _
    rw [hcalls]
    exact r.marked_prepares w registry calls .empty

/-! ### The workshop of templates -/

/-- The host of a renderer, with invocations prepared in some way. -/
def hostBy (prepare : Preparing) : Host Template.Compiled :=
  r.host.compilingBy (Template.compileBy r.options r.registry.names (rememberedBy prepare) r.site.config.encoding)

/-- Rendering a source without a handle of a pass, with invocations prepared in some way. -/
def renderBareBy (prepare : Preparing) (source : List Char) (bindings : Bindings) :
    Run (Pass Template.Compiled) String := do
  let compiled ← Pass.onDesk
    (Template.compileTextBy r.options r.registry.names (rememberedBy prepare) none source)
  (compiled.renderWith r.options r.clerk bindings).play fun invocation => throw (.run (.noPass invocation.tag))

/-- What a renderer makes of a way of preparing. -/
def workshop : Workshop Template.Compiled := ⟨r.hostBy, r.renderBareBy⟩

theorem host_workshop : r.workshop.host r.clerk.prepare = r.host := by
  show r.hostBy r.clerk.prepare = r.host
  rw [hostBy, ← Clerk.remembered_eq]
  exact congrArg r.host.compilingBy (Template.compile_eq r.options r.clerk r.site.config.encoding).symm

theorem bare_workshop : r.workshop.bare r.clerk.prepare = r.renderBare := by
  funext source bindings
  show r.renderBareBy r.clerk.prepare source bindings = _
  rw [renderBare, renderBareBy, Template.compileText_eq, Clerk.remembered_eq]
  rfl

theorem Errand.run_eq (errand : Errand Template.Compiled) :
    errand.run r = errand.runBy r r.workshop r.clerk.prepare := by
  cases errand with
  | prepare tag markup => rfl
  | meet tag markup => rfl
  | compile source name => rw [run, runBy, host_workshop]
  | execute setting scope cache invocation => rw [run, runBy, host_workshop]
  | render files call => rw [run, runBy, host_workshop, Call.run_eq]
  | outside source bindings => rw [run, runBy, renderOutside, bare_workshop]

/-- The clerk of a renderer, with notices announced under a name, if they are. -/
abbrev clerkUnder (noticeTag : Option String) : Clerk := ⟨r.registry, noticeTag⟩

/-- A renderer owes it to its clerk, announced or not. -/
theorem even_workshop (noticeTag : Option String) : r.workshop.Even (r.clerkUnder noticeTag) where
  host := {
    note _ hroutine _ _ h := ⟨rfl, h.add hroutine⟩
    compile := Template.agree_compileBy Clerk.agree_remembered_watch _ _ _ }
  host_eq := rfl
  bare _ _ :=
    .bind (level_onDesk (Template.agree_compileTextBy Clerk.agree_remembered_watch _ _ _ _))
      fun _ => lockstep_play level_inStep (fun _ => .throw _) _

/-- Every notice is announced once, when its directive is first prepared. Beside any errands of a renderer, whatever
they end with, are the same errands without notices, and those in which every preparation is marked before it is
made. All three come to the same, and a preparation does on any desks. Where the marks of the one trace stand,
the trace with notices has the notice on each directive at its first mark, and nothing at others, and the trace
without notices has nothing; so the notices in all are those on the directives prepared, once each, in the order in
which they were first prepared. -/
theorem announced_once (noticeTag : String) (errands : List (Errand Template.Compiled)) :
    let clerk := r.clerkUnder (some noticeTag)
    let silent := r.clerkUnder none
    let told := Errand.allBy r r.workshop clerk.prepare errands .empty
    let untold := Errand.allBy r r.workshop silent.prepare errands .empty
    let watched := Errand.allBy r r.workshop r.registry.watch errands .empty
    (∀ errand, Errand.run r errand = errand.runBy r r.workshop r.clerk.prepare) ∧
    (∀ tag markup d e, ((clerk.prepare tag markup).start d).1 = ((silent.prepare tag markup).start e).1) ∧
    (told.1 = untold.1 ∧ untold.1 = watched.1) ∧
    untold.2.trace = watched.2.trace.filter (·.marked?.isNone) ∧
    told.2.trace = clerk.told [] watched.2.trace ∧
    told.2.trace.notices = watched.2.trace.marked.eraseDups.filterMap clerk.notice ∧
    ∀ calls : List (String × List Char), errands = calls.map (fun call => .prepare call.1 call.2) →
      watched.2.trace.marked = calls.map Prod.fst :=
  ⟨Errand.run_eq r, r.announcedBy_once r.workshop r.registry r.even_workshop noticeTag errands⟩

-- The notice comes with a fault of the markup, and not again when the directive is met later.
example :
    let site : Site := ⟨⟨.ofString "/site", [], [], "", "utf-8", "\n\n", []⟩⟩
    let r : Renderer := ⟨site, ⟨[⟨"include_file", .includeRoots, some "old"⟩]⟩, .standard⟩
    let page := "\x7b% include_file nav.html %\x7d".toList
    let errands : List (Errand Template.Compiled) := [.prepare "nope" [], .prepare "include_file" "nav.html x=".toList,
      .prepare "include_file" "nav.html".toList, .render (.ofNodes []) (.source page [] none "page")]
    (Errand.allBy r r.workshop r.clerk.prepare errands .empty).2.trace.notices.map Record.tag = [tag] := by
  decide +kernel

end Renderer
end Transclusion

import Transclusion.Proofs.Executions

/-! The stages of a directive and their events.

Each stage adds events of its own kind: evaluating a reference compiles, finding
a partial asks the strategy and looks candidates up, fetching reads one of them
and compiles it, and running starts it in one more layer. `OwnEvent` is the list
of all kinds with what holds of each, and no stage does more: the own events of a
directive are those of the list (`executeWith_own`). The scope stays as it was if
references only read (`around_executeWith`). -/
namespace Transclusion.Inclusion
open Directive

variable {C : Type} {G : Desk → Desk → Prop} {P : Event → Prop} {host : Host C}

/-! ### What a directive may do itself -/

/-- What the layer of a partial holds at its start: nothing, or the arguments. -/
def IsArgumentLayer (layer : Bindings) : Prop :=
  layer = [] ∨ ∃ values, layer = [(argumentsName, values)]

/-- Where a reference may be looked for: it is safe, and the path is that reference joined to a root of
the directive's strategy. -/
def Candidate (setting : Setting) (invocation : Invocation) (reference : String) (path : Path) : Prop :=
  isSafeReference reference.toList = true ∧
    ∃ root ∈ invocation.strategy.roots setting.site setting.document,
      path = joinReference (.ofString root) reference.toList

/-- What a directive does itself that is entered in a scope and whose reference comes to
`evaluated`. -/
inductive OwnEvent (setting : Setting) (invocation : Invocation) (evaluated : Except Fault String)
    (entry : Scope) : Event → Prop
  | record (r : Record) : OwnEvent setting invocation evaluated entry (.record r)
  | compile (name : String) : OwnEvent setting invocation evaluated entry (.compile name)
  | search {reference : String} : evaluated = .ok reference → isSafeReference reference.toList = true →
      OwnEvent setting invocation evaluated entry (.search invocation.strategy.name)
  | lookup {reference : String} {path : Path} : evaluated = .ok reference →
      Candidate setting invocation reference path →
      OwnEvent setting invocation evaluated entry (.lookup path)
  | read {reference : String} {path : Path} : evaluated = .ok reference →
      Candidate setting invocation reference path →
      OwnEvent setting invocation evaluated entry (.read path)
  | start {reference : String} {path : Path} {layer : Bindings} : evaluated = .ok reference →
      Candidate setting invocation reference path → IsArgumentLayer layer →
      OwnEvent setting invocation evaluated entry (.start path (entry.push layer))

theorem OwnEvent.isPlain {setting : Setting} {invocation : Invocation} {evaluated : Except Fault String}
    {entry : Scope} {event : Event} (h : OwnEvent setting invocation evaluated entry event) :
    event.isPlain = true := by cases h <;> rfl

theorem lasting_own (hquiet : host.Quiet) (setting : Setting) (invocation : Invocation)
    (evaluated : Except Fault String) (entry : Scope) :
    Lasting host (OwnEvent setting invocation evaluated entry)
      (Desk.Grown (OwnEvent setting invocation evaluated entry)) :=
  lasting_grown hquiet (fun _ => OwnEvent.isPlain) .record

/-! ### Finding the file -/

/-- What is found is one of the joined paths. -/
theorem searchRoots_some {files : Files} {reference : String} {roots : List String} {path : Path}
    {d e : Desk} (h : (searchRoots files reference roots).start d = (.ok (some path), e)) :
    ∃ root ∈ roots, path = joinReference (.ofString root) reference.toList := by
  induction roots generalizing d with
  | nil => simp [searchRoots] at h
  | cons root rest ih =>
    obtain ⟨_, t, -, h⟩ := Run.start_bind_eq_ok h
    obtain ⟨isThere, u, -, h⟩ := Run.start_bind_eq_ok h
    cases isThere with
    | true =>
      simp only [if_true, Run.start_pure, Prod.mk.injEq, Except.ok.injEq, Option.some.injEq] at h
      exact ⟨root, List.mem_cons_self .., h.1.symm⟩
    | false =>
      simp only [Bool.false_eq_true, if_false] at h
      obtain ⟨r, hr, hp⟩ := ih h
      exact ⟨r, List.mem_cons_of_mem root hr, hp⟩

theorem locate_ok {files : Files} {reference : String} {roots : List String} {path : Path} {d e : Desk}
    (h : (locate files reference roots).start d = (.ok path, e)) :
    ∃ root ∈ roots, path = joinReference (.ofString root) reference.toList := by
  obtain ⟨found, t, hfound, h⟩ := Run.start_bind_eq_ok h
  cases found with
  | some found =>
    simp only [Run.start_pure, Prod.mk.injEq, Except.ok.injEq] at h
    exact searchRoots_some (h.1 ▸ hfound)
  | none =>
    obtain ⟨_, u, -, h⟩ := Run.start_bind_eq_ok h
    simp at h

/-- The file that is found is a candidate of the reference. -/
theorem findPartial_ok {setting : Setting} {invocation : Invocation} {reference : String} {path : Path}
    {d e : Desk} (h : (findPartial setting invocation reference).start d = (.ok path, e)) :
    Candidate setting invocation reference path := by
  obtain ⟨_, t, hcheck, h⟩ := Run.start_bind_eq_ok h
  obtain ⟨_, u, -, h⟩ := Run.start_bind_eq_ok h
  by_cases hsafe : isSafeReference reference.toList = true
  · exact ⟨hsafe, locate_ok h⟩
  · rw [checkReference, if_neg hsafe] at hcheck
    simp at hcheck

/-! ### Fetching through the cache -/

theorem start_fetch_hit {files : Files} {path : Path} {s : Store C} {compiled : C}
    (h : s.cache.find? path.toString = some compiled) :
    (fetch host files path).start s =
      (.ok compiled, ⟨s.cache.hit, s.desk.add (.record (hitRecord path.toString))⟩) := by
  unfold fetch
  rw [Run.start_bind, Run.start_get]
  simp only [h]
  rfl

theorem start_fetch_miss {files : Files} {path : Path} {s : Store C}
    (h : s.cache.find? path.toString = none) :
    (fetch host files path).start s =
      match (fetchAnew host files path).start s.desk with
      | (.ok compiled, d) => (.ok compiled, ⟨s.cache.miss.insert path.toString compiled, d⟩)
      | (.error fault, d) => (.error fault, ⟨s.cache.miss, d⟩) := by
  unfold fetch
  rw [Run.start_bind, Run.start_get]
  simp only [h, Store.onCache, Store.onDesk, Run.start_bind, Run.start_change, Run.start_zoom]
  rcases (fetchAnew host files path).start s.desk with ⟨fault | compiled, d⟩ <;> rfl

/-! ### What the stages keep -/

section Finding
variable (hG : Lasting host P G)
include hG

theorem keeps_searchRoots {files : Files} {reference : String} {roots : List String}
    (hlookup : ∀ root ∈ roots, P (.lookup (joinReference (.ofString root) reference.toList))) :
    (searchRoots files reference roots).Keeps G := by
  induction roots with
  | nil => exact .pure hG.refl _
  | cons root rest ih =>
    refine hG.bind (hG.note (hlookup root (List.mem_cons_self ..))) fun _ => ?_
    refine hG.bind (.ofExcept hG.refl _) fun isThere => ?_
    cases isThere with
    | true => exact .pure hG.refl _
    | false => exact ih fun r hr => hlookup r (List.mem_cons_of_mem root hr)

theorem keeps_locate {files : Files} {reference : String} {roots : List String}
    (hrecord : ∀ r, r.level ≠ .error → P (.record r))
    (hlookup : ∀ root ∈ roots, P (.lookup (joinReference (.ofString root) reference.toList))) :
    (locate files reference roots).Keeps G := by
  refine hG.bind (keeps_searchRoots hG hlookup) fun found => ?_
  cases found with
  | some path => exact .pure hG.refl _
  | none => exact hG.bind (hG.note (hrecord _ (by simp [notFoundRecord]))) fun _ => .throw hG.refl _

/-- The strategy is asked, and candidates are looked up, for a safe reference only. -/
theorem keeps_findPartial (setting : Setting) (invocation : Invocation) (reference : String)
    (hrecord : ∀ r, r.level ≠ .error → P (.record r))
    (hsearch : isSafeReference reference.toList = true → P (.search invocation.strategy.name))
    (hlookup : ∀ path, Candidate setting invocation reference path → P (.lookup path)) :
    (findPartial setting invocation reference).Keeps G := by
  unfold findPartial checkReference
  by_cases hsafe : isSafeReference reference.toList = true
  · rw [if_pos hsafe]
    refine hG.bind (.ofExcept hG.refl _) fun _ => ?_
    refine hG.bind (hG.note (hsearch hsafe)) fun _ => ?_
    exact keeps_locate hG hrecord fun root hroot => hlookup _ ⟨hsafe, root, hroot, rfl⟩
  · rw [if_neg hsafe]
    intro d
    exact hG.refl d

theorem keeps_compilePartial {key : String} {bytes : List UInt8} (hcompile : P (.compile key)) :
    (compilePartial host key bytes).Keeps G := by
  refine hG.bind (hG.note hcompile) fun _ => ?_
  refine .onFault hG.trans (hG.compile _ _) fun fault => ?_
  split <;> exact .throw hG.refl _

theorem keeps_fetchAnew (files : Files) (path : Path) (hrecord : ∀ r, r.level ≠ .error → P (.record r))
    (hcompile : ∀ name, P (.compile name)) (hread : P (.read path)) :
    (fetchAnew host files path).Keeps G := by
  refine hG.bind (hG.bind (hG.note hread) fun _ => .ofExcept hG.refl _) fun bytes => ?_
  refine hG.bind (keeps_compilePartial hG (hcompile _)) fun compiled => ?_
  exact hG.bind (hG.note (hrecord _ (by simp [compiledRecord]))) fun _ => .pure hG.refl _

theorem keeps_fetch (files : Files) (path : Path) (hrecord : ∀ r, r.level ≠ .error → P (.record r))
    (hcompile : ∀ name, P (.compile name)) (hread : P (.read path)) :
    (fetch host files path).Keeps fun s t => G s.desk t.desk := by
  intro s
  cases hc : s.cache.find? path.toString with
  | some compiled =>
    rw [start_fetch_hit hc]
    exact hG.add _ (hrecord _ (by simp [hitRecord]))
  | none =>
    have fetching := keeps_fetchAnew hG files path hrecord hcompile hread s.desk
    rw [start_fetch_miss hc]
    rcases hf : (fetchAnew host files path).start s.desk with ⟨fault | compiled, d⟩ <;> rw [hf] at fetching
    · exact fetching
    · exact fetching

end Finding

/-! ### Running the partial -/

section Running
variable (hG : Lasting host P G) {inclusion : Invocation → Run (Pass C) String}
  (hinclusion : ∀ invocation, (inclusion invocation).Keeps (Pass.Within G)) (hrecord : ∀ r, P (.record r))
include hG hinclusion hrecord

/-- Behind its start a partial changes the innermost layer at most, whatever it ends with. -/
theorem within_started (compiled : C) (path : Path) (p : Pass C) :
    Pass.Within G (p.add (.start path p.scope)) ((runPartial host inclusion compiled path).start p).2 := by
  have playing : Run.Keeps (Pass.Within G)
      (((host.script compiled).play inclusion).onFault fun fault => do
        if host.wraps fault then Pass.onDesk (record (failedRecord path.toString fault))
        throw (host.leaving path.toString fault)) := by
    refine .onFault hG.within_trans (within_play hG hinclusion _) fun fault => ?_
    split
    · have reported := Pass.around_onDesk (C := C)
        (hG.note (hrecord (failedRecord path.toString fault)))
      exact .bind hG.within_trans (reported.mono fun _ _ => Pass.Around.within) fun _ =>
        .throw hG.within_refl _
    · exact .throw hG.within_refl _
  exact playing (p.add (.start path p.scope))

/-- A partial is started in the scope at hand, and changes the innermost layer at most. -/
theorem within_runPartial {compiled : C} {path : Path} {p : Pass C} (hstart : P (.start path p.scope)) :
    Pass.Within G p ((runPartial host inclusion compiled path).start p).2 :=
  hG.within_trans (hG.around_add p hstart).within (within_started hG hinclusion hrecord compiled path p)

/-- The arguments, if there are any, are all that the layer of the partial holds when it starts. -/
theorem within_runWith {compiled : C} {path : Path} {arguments : Option Bindings} {p : Pass C}
    (hstart : ∀ layer, IsArgumentLayer layer → P (.start path (p.scope.push layer))) :
    Pass.Within G { p with scope := p.scope.push [] }
      ((runWith host inclusion arguments compiled path).start { p with scope := p.scope.push [] }).2 := by
  cases arguments with
  | none => exact within_runPartial hG hinclusion hrecord (hstart [] (.inl rfl))
  | some values =>
    let q := { p with scope := p.scope.push [(argumentsName, .ofBindings values)] }
    have started : Pass.Within G q ((runPartial host inclusion compiled path).start q).2 :=
      within_runPartial hG hinclusion hrecord (hstart _ (.inr ⟨_, rfl⟩))
    exact ⟨started.outer, started.desk⟩

theorem around_running {compiled : C} {path : Path} {arguments : Option Bindings}
    {tag operation : String} {particulars : Bindings} {p : Pass C}
    (hstart : ∀ layer, IsArgumentLayer layer → P (.start path (p.scope.push layer))) :
    Pass.Around G p ((withinSpan tag operation particulars
      (withinLayer [] (runWith host inclusion arguments compiled path))).start p).2 :=
  around_withinSpan hG hrecord (around_withinLayer (within_runWith hG hinclusion hrecord hstart))

end Running

/-! ### The directive as a whole -/

section Whole
variable (setting : Setting) {inclusion : Invocation → Run (Pass C) String}

theorem around_evaluateArguments (hG : Lasting host P G) (invocation : Invocation) :
    (evaluateArguments host invocation).Keeps (Pass.Around G) := by
  unfold evaluateArguments
  split
  · exact .pure hG.around_refl _
  · exact .look fun p => Run.Keeps.bind hG.around_trans (.ofExcept hG.around_refl _)
      (fun _ => .pure hG.around_refl _) p

/-- Evaluating a reference is compiling it and playing what it is compiled to. -/
theorem start_effectiveReference {invocation : Invocation} (h : invocation.markup.isTemplated = true)
    (p : Pass C) :
    (effectiveReference host inclusion invocation).start p =
      match (host.compile (.text invocation.markup.reference) referenceName).start
        (p.desk.add (.compile referenceName)) with
      | (.ok compiled, d) =>
        ((host.script compiled).play inclusion).start { p with store := { p.store with desk := d } }
      | (.error fault, d) => (.error fault, { p with store := { p.store with desk := d } }) := by
  unfold effectiveReference
  rw [if_pos h, Run.start_bind, Pass.start_onDesk, Run.start_bind]
  simp only [note, Run.start_change]
  rcases (host.compile (.text invocation.markup.reference) referenceName).start
    (p.desk.add (.compile referenceName)) with ⟨fault | compiled, d⟩ <;> rfl

theorem within_effectiveReference (hG : Lasting host P G)
    (hinclusion : ∀ invocation, (inclusion invocation).Keeps (Pass.Within G))
    (hcompile : ∀ name, P (.compile name)) (invocation : Invocation) :
    (effectiveReference host inclusion invocation).Keeps (Pass.Within G) := by
  intro p
  by_cases htemplated : invocation.markup.isTemplated = true
  · have compiling := hG.trans (hG.add p.desk (hcompile referenceName))
      (hG.compile (.text invocation.markup.reference) referenceName _)
    rw [start_effectiveReference htemplated]
    split
    · next compiled d hd =>
      rw [hd] at compiling
      have played := within_play hG hinclusion (host.script compiled)
        { p with store := { p.store with desk := d } }
      exact ⟨played.outer, hG.trans compiling played.desk⟩
    · next fault d hd =>
      rw [hd] at compiling
      exact ⟨rfl, compiling⟩
  · unfold effectiveReference
    rw [if_neg htemplated]
    exact hG.within_refl p

/-- A reference that only reads leaves the scope alone. -/
theorem scope_effectiveReference (hread : host.ReferencesRead) (hG : Lasting host P G)
    (hinclusion : ∀ invocation, (inclusion invocation).Keeps (Pass.Around G)) (invocation : Invocation)
    (p : Pass C) : ((effectiveReference host inclusion invocation).start p).2.scope = p.scope := by
  by_cases htemplated : invocation.markup.isTemplated = true
  · rw [start_effectiveReference htemplated]
    split
    · next compiled d hd =>
      have reads := hread _ _ compiled (congrArg Prod.fst hd)
      exact (around_play hG hinclusion reads _).scope
    · rfl
  · unfold effectiveReference
    rw [if_neg htemplated]
    rfl

/-- Behind the reference a directive leaves the scope as it is, and does itself nothing but what its stages
do. -/
theorem around_includeReference (invocation : Invocation) {evaluated : Except Fault String}
    (reference : String) (hreference : evaluated = .ok reference) (p : Pass C)
    (hG : Lasting host (OwnEvent setting invocation evaluated p.scope) G)
    (hinclusion : ∀ invocation, (inclusion invocation).Keeps (Pass.Within G)) :
    Pass.Around G p ((includeReference host setting (fetch host setting.files) inclusion invocation
      reference).start p).2 := by
  have finding := Pass.around_onDesk (C := C) (keeps_findPartial hG setting invocation reference (fun r _ => .record r)
    (fun hsafe => .search hreference hsafe) fun path hpath => .lookup hreference hpath) p
  refine Run.related_bind hG.around_trans finding fun path q hq => ?_
  -- What was found is a candidate, and so may be read and started.
  have hpath : Candidate setting invocation reference path := by
    rw [Pass.start_onDesk, Prod.mk.injEq] at hq
    exact findPartial_ok (Prod.ext hq.1 rfl)
  rw [hq] at finding
  have fetching : Pass.Around G q ((Pass.onStore (fetch host setting.files path)).start q).2 :=
    Pass.around_onStore (keeps_fetch hG _ _ (fun r _ => .record r) .compile (.read hreference hpath)) q
  refine Run.related_bind hG.around_trans fetching fun compiled r hr => ?_
  rw [hr] at fetching
  have binding : Pass.Around G r ((evaluateArguments host invocation).start r).2 :=
    around_evaluateArguments hG invocation r
  refine Run.related_bind hG.around_trans binding fun arguments t ht => ?_
  rw [ht] at binding
  refine around_running hG hinclusion .record fun layer hlayer => ?_
  -- No stage so far has touched the scope, so the layer is pushed on the one at the start.
  have hscope : t.scope = p.scope := (binding.scope.trans fetching.scope).trans finding.scope
  exact hscope ▸ .start hreference hpath hlayer

/-- A directive changes the innermost layer at most, and does itself nothing but what its stages do. -/
theorem within_stages (invocation : Invocation) (p : Pass C)
    (hG : Lasting host (OwnEvent setting invocation ((effectiveReference host inclusion invocation).start p).1
      ((effectiveReference host inclusion invocation).start p).2.scope) G)
    (hinclusion : ∀ invocation, (inclusion invocation).Keeps (Pass.Within G)) :
    Pass.Within G p ((stages host setting (fetch host setting.files) inclusion invocation).start p).2 := by
  have evaluating := within_effectiveReference hG hinclusion .compile invocation p
  refine Run.related_bind hG.within_trans evaluating fun reference q hq => ?_
  rw [hq] at hG
  exact (around_includeReference setting invocation reference rfl q hG hinclusion).within

/-- A directive leaves the scope alone if evaluating its reference does. -/
theorem around_stages (invocation : Invocation) (p : Pass C)
    (hG : Lasting host (OwnEvent setting invocation ((effectiveReference host inclusion invocation).start p).1
      ((effectiveReference host inclusion invocation).start p).2.scope) G)
    (hinclusion : ∀ invocation, (inclusion invocation).Keeps (Pass.Within G))
    (hscope : ((effectiveReference host inclusion invocation).start p).2.scope = p.scope) :
    Pass.Around G p ((stages host setting (fetch host setting.files) inclusion invocation).start p).2 := by
  have evaluating := within_effectiveReference hG hinclusion .compile invocation p
  refine Run.related_bind hG.around_trans ⟨hscope, evaluating.desk⟩ fun reference q hq => ?_
  rw [hq] at hG
  exact around_includeReference setting invocation reference rfl q hG hinclusion

theorem within_executeWith (hquiet : host.Quiet) (depth : Nat) (P : Event → Prop)
    (invocation : Invocation) :
    (executeWith host setting (fetch host setting.files) depth invocation).Keeps
      (Pass.Within (Desk.Grown P)) := by
  induction depth generalizing P invocation with
  | zero => exact .throw (fun _ => ⟨rfl, Trace.Grows.refl _⟩) _
  | succ depth ih =>
    intro p
    exact within_withinDirective (within_stages setting invocation _ (lasting_own hquiet ..) (ih _))

/-- If references only read, the scope is as before when a directive ends. -/
theorem around_executeWith (hread : host.ReferencesRead) (hG : Lasting host (fun _ => True) G) (depth : Nat)
    (invocation : Invocation) :
    (executeWith host setting (fetch host setting.files) depth invocation).Keeps (Pass.Around G) := by
  induction depth generalizing invocation with
  | zero => exact .throw hG.around_refl _
  | succ depth ih =>
    intro p
    have inner invocation := (ih invocation).mono fun _ _ => Pass.Around.within
    have hscope := scope_effectiveReference hread hG ih invocation (p.add (.enter invocation.tag))
    have whole := around_stages setting invocation _ (hG.mono fun _ _ => trivial) inner hscope
    exact hG.around_trans (hG.around_trans (hG.around_add p trivial) whole) (hG.around_add _ trivial)

/-- The own events of a directive, told apart by the stages that they belong to. Its partial is started in
the scope that evaluating the reference leaves. -/
theorem executeWith_own (hquiet : host.Quiet) (depth : Nat) (invocation : Invocation) (p : Pass C) :
    let inclusion := executeWith host setting (fetch host setting.files) depth
    let evaluated := (effectiveReference host inclusion invocation).start (p.add (.enter invocation.tag))
    ∀ event ∈ Trace.own 0 (Trace.since p.desk.trace
        ((executeWith host setting (fetch host setting.files) (depth + 1) invocation).start p).2.desk.trace),
      OwnEvent setting invocation evaluated.1 evaluated.2.scope event :=
  Trace.own_since (within_stages setting invocation (p.add (.enter invocation.tag))
    (lasting_own hquiet ..) (within_executeWith setting hquiet depth _)).desk

end Whole

end Transclusion.Inclusion

import Transclusion.Scope.Action

/-! Layers under a program.

A program over a scope changes its layers shift by shift: it pushes a layer, takes the
innermost away, is refused that at the base layer, or binds a name. `passages` tells the
shifts of a program in order, with the scope behind each of them, through blocks, attempts
and interruptions; a run ends where they lead (`leads_passagesAll`). Two facts about one
shift carry the rest: the depth counts pushes and pops (`Step.depth`), and layers stay the
outermost ones of a scope as long as it is deeper than they are many (`Step.standsOn`). A
block whose body stays above the layers that it found therefore finds them again
(`block_restores`). -/
namespace Transclusion

namespace Scope

/-- What happens to the layers of a scope. -/
inductive Shift where
  | push
  | pop
  /-- A pop that fails. -/
  | refusal
  | set
  deriving DecidableEq

/-- A shift, and the scope behind it. -/
structure Passage where
  shift : Shift
  scope : Scope

/-- How many shifts of a kind there are. -/
def shifts (kind : Shift) (passages : List Passage) : Nat := (passages.map Passage.shift).count kind

/-- What a shift makes of a scope. -/
inductive Step (s : Scope) : Passage → Prop
  | push (bindings : Bindings) : Step s ⟨.push, s.push bindings⟩
  | pop {t : Scope} (h : s.pop = .ok t) : Step s ⟨.pop, t⟩
  | refusal {fault : Fault} (h : s.pop = .error fault) : Step s ⟨.refusal, s⟩
  | set (name : String) (value : Value) : Step s ⟨.set, s.set name value⟩

/-- Shifts lead from a scope to another. -/
inductive Leads : Scope → List Passage → Scope → Prop
  | here (s : Scope) : Leads s [] s
  | step {s t : Scope} {p : Passage} {rest : List Passage} (hstep : s.Step p)
      (hrest : Leads p.scope rest t) : Leads s (p :: rest) t

/-- Layers are the outermost ones of a scope, which has more. -/
def StandsOn (outer : List Bindings) (s : Scope) : Prop := outer <:+ s.outer

variable {s t u : Scope} {p : Passage} {before after : List Passage} {outer : List Bindings}

/-! ### One shift -/

theorem pop_eq_ok_iff : s.pop = .ok t ↔ s.pop? = some t := by
  unfold pop
  cases s.pop? <;> simp

theorem pop_eq_error_iff {fault : Fault} : s.pop = .error fault ↔ s.depth = 1 ∧ fault = .baseLayer := by
  rw [← pop?_eq_none_iff]
  unfold pop
  cases s.pop? <;> simp [eq_comm]

theorem layers_of_pop (h : s.pop = .ok t) : t.layers = s.outer := (layers_pop? (pop_eq_ok_iff.1 h)).symm

theorem depth_eq_outer (s : Scope) : s.depth = s.outer.length + 1 := by
  obtain ⟨inner, base⟩ := s
  cases inner <;> simp [depth, outer, layers]

theorem depth_of_pop (h : s.pop = .ok t) : t.depth + 1 = s.depth := by
  rw [depth_eq_outer s, ← layers_of_pop h, length_layers]

/-- A pop is refused at the base layer, and only there. -/
theorem Step.refused_iff (h : s.Step p) (hpop : p.shift = .pop ∨ p.shift = .refusal) :
    p.shift = .refusal ↔ s.depth = 1 := by
  cases h with
  | push | set => simp at hpop
  | @pop t h =>
    have hdepth := depth_of_pop h
    have ht : t.depth = t.inner.length + 1 := rfl
    simp only [reduceCtorEq, false_iff]
    omega
  | refusal h => simp [(pop_eq_error_iff.1 h).1]

/-- A refused pop leaves the scope as it is. -/
theorem Step.scope_of_refusal (h : s.Step p) (hrefusal : p.shift = .refusal) : p.scope = s := by
  cases h with
  | push | pop | set => cases hrefusal
  | refusal => rfl

theorem shifts_cons (kind : Shift) (p : Passage) (rest : List Passage) :
    shifts kind (p :: rest) = shifts kind rest + if p.shift = kind then 1 else 0 := by
  rw [shifts, List.map_cons, List.count_cons, shifts]
  simp only [beq_iff_eq]

/-- A push adds to the depth and a pop takes from it; nothing else changes it. -/
theorem Step.depth (h : s.Step p) (rest : List Passage) :
    p.scope.depth + shifts .push rest + shifts .pop (p :: rest) =
      s.depth + shifts .push (p :: rest) + shifts .pop rest := by
  rw [shifts_cons, shifts_cons]
  cases h with
  | push bindings =>
    have hdepth : (s.push bindings).depth = s.depth + 1 := rfl
    simp only [reduceIte, reduceCtorEq]
    omega
  | pop h =>
    have hdepth := depth_of_pop h
    simp only [reduceIte, reduceCtorEq]
    omega
  | refusal => simp
  | set name value =>
    have hdepth : (s.set name value).depth = s.depth := by rw [depth_eq_outer, depth_eq_outer s, outer_set]
    simp only [reduceIte, reduceCtorEq]
    omega

/-- Layers stay the outermost ones through a shift that stays above them. -/
theorem Step.standsOn (h : s.Step p) (hstands : s.StandsOn outer) (habove : outer.length < p.scope.depth) :
    p.scope.StandsOn outer := by
  cases h with
  | push bindings => exact hstands.trans (List.tail_suffix s.layers)
  | @pop t h =>
    obtain ⟨inner, hinner⟩ : outer <:+ t.layers := layers_of_pop h ▸ hstands
    -- the depth says that this is not all of the layers that are left
    rw [← length_layers, ← hinner, List.length_append] at habove
    obtain ⟨layer, more, rfl⟩ := List.exists_cons_of_length_pos (Nat.pos_of_lt_add_left habove)
    exact ⟨more, by rw [Scope.outer, ← hinner, List.cons_append, List.tail_cons]⟩
  | refusal => exact hstands
  | set name value =>
    show outer <:+ (s.set name value).outer
    rwa [outer_set]

/-! ### Shifts one after another -/

theorem Leads.append (h : Leads s before t) (h' : Leads t after u) : Leads s (before ++ after) u := by
  induction h with
  | here => exact h'
  | step hstep _ ih => exact .step hstep (ih h')

theorem Leads.split (h : Leads s (before ++ after) u) : ∃ t, Leads s before t ∧ Leads t after u := by
  induction before generalizing s with
  | nil => exact ⟨s, .here s, h⟩
  | cons p rest ih =>
    cases h with
    | step hstep hrest =>
      obtain ⟨t, hbefore, hafter⟩ := ih hrest
      exact ⟨t, .step hstep hbefore, hafter⟩

/-- The depth counts pushes and pops. -/
theorem Leads.depth (h : Leads s before t) :
    t.depth + shifts .pop before = s.depth + shifts .push before := by
  induction h with
  | here => rfl
  | @step s t p rest hstep _ ih =>
    have := hstep.depth rest
    omega

/-- Layers stay the outermost ones as long as the scope is deeper than they are many. -/
theorem Leads.standsOn (h : Leads s before t) (hstands : s.StandsOn outer)
    (habove : ∀ p ∈ before, outer.length < p.scope.depth) : t.StandsOn outer := by
  induction h with
  | here => exact hstands
  | @step s t p rest hstep _ ih =>
    have hfirst := hstep.standsOn hstands (habove p (List.mem_cons_self ..))
    exact ih hfirst fun q hq => habove q (List.mem_cons_of_mem p hq)

/-- A scope one layer deep on layers is those layers without it. -/
theorem StandsOn.pop_eq (h : t.StandsOn s.layers) (hdepth : t.depth = s.depth + 1) : t.pop = .ok s := by
  have hlength : s.layers.length = t.outer.length := by
    have := depth_eq_outer t
    have := length_layers s
    omega
  exact pop_eq_ok_iff.2 (pop?_of_outer (h.eq_of_length hlength).symm)

end Scope

/-! ### Programs -/

namespace ScopeAction
open Scope

/-- The shift of a pop. -/
def popping (s : Scope) : Passage :=
  match s.pop with
  | .ok t => ⟨.pop, t⟩
  | .error _ => ⟨.refusal, s⟩

mutual

/-- What happens to the layers of a scope while an action runs. -/
def passages (s : Scope) : ScopeAction → List Passage
  | push bindings => [⟨.push, s.push bindings⟩]
  | pop => [popping s]
  | set name value => [⟨.set, s.set name value⟩]
  | get _ _ | contains _ | flatten | raise _ => []
  | block bindings body =>
    ⟨.push, s.push bindings⟩ :: passagesAll (s.push bindings) body ++
      [popping (runAll (s.push bindings) body).scope]
  | attempt body => passagesAll s body

/-- What happens to them while actions run one after another, until one is interrupted. -/
def passagesAll (s : Scope) : List ScopeAction → List Passage
  | [] => []
  | action :: rest =>
    passages s action ++
      match (run s action).outcome with
      | .error _ => []
      | .ok _ => passagesAll (run s action).scope rest

end

variable {s : Scope}

theorem step_popping (s : Scope) : s.Step (popping s) := by
  unfold popping
  split
  · next h => exact .pop h
  · next h => exact .refusal h

/-- A pop is the end of an empty block. -/
theorem run_pop (s : Scope) : run s pop = leave ⟨.ok .null, s, []⟩ := by
  rw [run, leave]
  cases s.pop <;> rfl

/-- Actions after the first one run where it ends, unless it is interrupted. -/
theorem scope_runAll (s : Scope) (action : ScopeAction) (rest : List ScopeAction) :
    (runAll s (action :: rest)).scope =
      match (run s action).outcome with
      | .error _ => (run s action).scope
      | .ok _ => (runAll (run s action).scope rest).scope := by
  cases rest with
  | nil =>
    rw [runAll]
    cases (run s action).outcome <;> rfl
  | cons next rest =>
    rw [runAll]
    · cases (run s action).outcome <;> rfl
    · exact List.cons_ne_nil next rest

section Leave
variable {body : ScopeRun}

theorem scope_leave (body : ScopeRun) : (leave body).scope = (popping body.scope).scope := by
  unfold leave popping
  cases body.scope.pop <;> rfl

/-- A block that has come down to the base layer is refused its end. -/
theorem leave_base (h : body.scope.depth = 1) :
    leave body = ⟨.error (.fault .baseLayer), body.scope, body.answers⟩ := by
  rw [leave, pop_eq_error_iff.2 ⟨h, rfl⟩]

/-- A block with a layer above the base ends as its body does. -/
theorem outcome_leave (h : body.scope.depth ≠ 1) : (leave body).outcome = body.outcome.map fun _ => .null := by
  unfold leave
  split
  · rfl
  · next hpop => exact absurd (pop_eq_error_iff.1 hpop).1 h

end Leave

mutual

/-- A run ends where its shifts lead. -/
theorem leads_passages (s : Scope) (action : ScopeAction) : Leads s (passages s action) (run s action).scope := by
  cases action with
  | push bindings => exact .step (.push bindings) (.here _)
  | pop =>
    rw [run_pop, scope_leave]
    exact .step (step_popping s) (.here _)
  | set name value => exact .step (.set name value) (.here _)
  | get | contains | flatten | raise => exact .here s
  | block bindings body =>
    have hbody := leads_passagesAll (s.push bindings) body
    rw [run, passages, scope_leave]
    exact (Leads.step (.push bindings) hbody).append (.step (step_popping _) (.here _))
  | attempt body => exact leads_passagesAll s body

theorem leads_passagesAll (s : Scope) (actions : List ScopeAction) :
    Leads s (passagesAll s actions) (runAll s actions).scope := by
  cases actions with
  | nil => exact .here s
  | cons action rest =>
    have hfirst := leads_passages s action
    have hrest := leads_passagesAll (run s action).scope rest
    rw [passagesAll, scope_runAll]
    cases (run s action).outcome with
    | error => simpa using hfirst
    | ok => exact hfirst.append hrest

end

/-- A block whose body stays above the layers around it, and ends one layer above them, leaves these layers
as they were and is interrupted by what interrupted its body, if anything did. Wherever a program over a
fresh scope is, the depth is one and the pushes so far less the pops, and so at least one; the next pop is
refused exactly if the depth is one, and then leaves the layers as they are. A pop of a program is a fault
exactly at the base layer. -/
theorem block_restores :
    (∀ (s : Scope) (bindings : Bindings) (body : List ScopeAction),
      let within := runAll (s.push bindings) body
      let around := run s (.block bindings body)
      (∀ p ∈ passagesAll (s.push bindings) body, s.depth + 1 ≤ p.scope.depth) →
        within.scope.depth = s.depth + 1 →
        around.scope.layers = s.layers ∧
          (∀ interrupt, within.outcome = .error interrupt → around.outcome = .error interrupt) ∧
          ∀ value, within.outcome = .ok value → around.outcome = .ok .null) ∧
    (∀ (bindings : Bindings) (program : List ScopeAction) (before after : List Passage),
      passagesAll (ofBindings bindings) program = before ++ after →
        ∃ t, Leads (ofBindings bindings) before t ∧
          Leads t after (runAll (ofBindings bindings) program).scope ∧
          t.depth + shifts .pop before = 1 + shifts .push before ∧ 1 ≤ t.depth ∧
          ∀ p ∈ after.head?, p.shift = .pop ∨ p.shift = .refusal →
            (p.shift = .refusal ↔ t.depth = 1) ∧ (p.shift = .refusal → p.scope.layers = t.layers)) ∧
    ∀ s : Scope,
      (run s pop).outcome = (if s.depth = 1 then .error (.fault .baseLayer) else .ok .null) ∧
        (s.depth = 1 → (run s pop).scope.layers = s.layers) := by
  refine ⟨fun s bindings body => ?_, fun bindings program before after hpassages => ?_, fun s => ?_⟩
  · intro within around habove hend
    have hlength : ∀ p ∈ passagesAll (s.push bindings) body, s.layers.length < p.scope.depth :=
      fun p hp => length_layers s ▸ habove p hp
    have hstands : within.scope.StandsOn s.layers :=
      (leads_passagesAll (s.push bindings) body).standsOn (List.suffix_refl s.layers) hlength
    have hscope : around.scope = s := by
      show (leave within).scope = s
      rw [scope_leave, popping, hstands.pop_eq hend]
    have hdeep : within.scope.depth ≠ 1 := by
      rw [hend]
      exact Nat.succ_ne_succ_iff.2 (Nat.succ_ne_zero _)
    have houtcome : around.outcome = within.outcome.map fun _ => .null := outcome_leave hdeep
    refine ⟨by rw [hscope], fun interrupt h => ?_, fun value h => ?_⟩
    · rw [houtcome, h]; rfl
    · rw [houtcome, h]; rfl
  · have hrun := leads_passagesAll (ofBindings bindings) program
    rw [hpassages] at hrun
    obtain ⟨t, hbefore, hafter⟩ := hrun.split
    refine ⟨t, hbefore, hafter, hbefore.depth, Nat.le_add_left .., fun p hp hpop => ?_⟩
    cases hafter with
    | here => cases hp
    | step hstep =>
      obtain rfl := Option.some.inj hp
      exact ⟨hstep.refused_iff hpop, fun hrefusal => by rw [hstep.scope_of_refusal hrefusal]⟩
  · rw [run_pop]
    by_cases h : s.depth = 1
    · rw [leave_base h, if_pos h]
      exact ⟨rfl, fun _ => rfl⟩
    · rw [outcome_leave h, if_neg h]
      exact ⟨rfl, fun hbase => absurd hbase h⟩

/-- Interrupts pass through two blocks, of which the inner one is left within an attempt, and a layer is
pushed and popped on the way. -/
theorem block_restores_nested :
    let s := ofBindings [("x", .int 1)]
    let body : List ScopeAction :=
      [.set "x" (.int 2), .push [("y", .null)], .attempt [.block [("x", .int 3)] [.set "z" .null, .raise "inner"]],
        .pop, .raise "outer", .pop, .pop]
    (run s (.block [] body)).scope.layers = [[("x", .int 1)]] ∧
      (run s (.block [] body)).outcome = .error (.raised "outer") := by
  intro s body
  have habove : ∀ p ∈ passagesAll (s.push []) body, s.depth + 1 ≤ p.scope.depth := by decide +kernel
  obtain ⟨hlayers, hinterrupt, -⟩ := block_restores.1 s [] body habove rfl
  exact ⟨hlayers, hinterrupt (.raised "outer") rfl⟩

end ScopeAction

end Transclusion

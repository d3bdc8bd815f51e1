import Transclusion.Trace

/-! How traces grow.

A run of directives adds *balanced* events: plain ones, and directives from their
entry to their exit with balanced events between. Of balanced events those of
nested directives can be left out (`own_append`, `own_nested`), so that what a
directive does itself is put together from what its stages do, whatever is
included within it (`Grows`). -/
namespace Transclusion

/-- Whether an event neither enters nor leaves a directive. -/
def Event.isPlain : Event → Bool
  | .enter _ | .leave => false
  | _ => true

namespace Trace

/-- Every directive that is entered is left again. -/
inductive Balanced : Trace → Prop
  | nil : Balanced []
  | plain {event : Event} {rest : Trace} : event.isPlain = true → Balanced rest → Balanced (event :: rest)
  | directive {tag : String} {inner rest : Trace} : Balanced inner → Balanced rest →
      Balanced (.enter tag :: (inner ++ .leave :: rest))

theorem Balanced.append {a b : Trace} (ha : Balanced a) (hb : Balanced b) : Balanced (a ++ b) := by
  induction ha with
  | nil => exact hb
  | plain h _ ih => exact .plain h ih
  | directive hi _ _ ih =>
    rw [List.cons_append, List.append_assoc, List.cons_append]
    exact .directive hi ih

theorem own_plain {event : Event} (h : event.isPlain = true) (level : Nat) (rest : Trace) :
    own level (event :: rest) = if level = 1 then event :: own level rest else own level rest := by
  cases event <;> first | rfl | simp [Event.isPlain] at h

/-- Within a further directive nothing is the outer one's own, and behind balanced events the same
directives are open as before. -/
theorem own_nested {a : Trace} (ha : Balanced a) (level : Nat) (b : Trace) :
    own (level + 2) (a ++ b) = own (level + 2) b := by
  induction ha generalizing level b with
  | nil => rfl
  | plain h _ ih => rw [List.cons_append, own_plain h, if_neg (by omega), ih]
  | directive _ _ hi ih =>
    rw [List.cons_append, List.append_assoc, List.cons_append]
    show own (level + 3) _ = _
    rw [hi (level + 1)]
    exact ih level b

theorem own_append {a : Trace} (ha : Balanced a) (b : Trace) : own 1 (a ++ b) = own 1 a ++ own 1 b := by
  induction ha generalizing b with
  | nil => rfl
  | plain h _ ih => rw [List.cons_append, own_plain h, own_plain h, if_pos rfl, if_pos rfl, ih,
      List.cons_append]
  | directive hi _ _ ih =>
    rw [List.cons_append, List.append_assoc, List.cons_append]
    show own 2 _ = own 2 _ ++ _
    rw [own_nested hi 0, own_nested hi 0]
    exact ih b

/-- A trace has grown by balanced events, of which those of the open directive satisfy `P`. -/
def Grows (P : Event → Prop) (before after : Trace) : Prop :=
  ∃ events, after = before ++ events ∧ Balanced events ∧ ∀ event ∈ own 1 events, P event

namespace Grows

variable {P Q : Event → Prop} {t u v : Trace}

theorem refl (t : Trace) : Grows P t t := ⟨[], by simp, .nil, by simp [own]⟩

theorem trans (h : Grows P t u) (h' : Grows P u v) : Grows P t v := by
  obtain ⟨a, rfl, ha, hP⟩ := h
  obtain ⟨b, rfl, hb, hP'⟩ := h'
  refine ⟨a ++ b, List.append_assoc .., ha.append hb, fun event he => ?_⟩
  rw [own_append ha, List.mem_append] at he
  exact he.elim (hP event) (hP' event)

/-- One plain event. -/
theorem plain {event : Event} (h : event.isPlain = true) (hP : P event) : Grows P t (t ++ [event]) := by
  refine ⟨[event], rfl, .plain h .nil, fun e he => ?_⟩
  rw [own_plain h, if_pos rfl] at he
  simp only [own, List.mem_singleton] at he
  exact he ▸ hP

/-- A nested directive adds nothing of the open directive's own. -/
theorem directive {tag : String} (h : Grows Q (t ++ [.enter tag]) u) : Grows P t (u ++ [.leave]) := by
  obtain ⟨a, rfl, ha, -⟩ := h
  refine ⟨.enter tag :: (a ++ [.leave]), by simp, .directive ha .nil, fun event he => ?_⟩
  rw [show own 1 (.enter tag :: (a ++ [.leave])) = own 2 (a ++ [.leave]) from rfl, own_nested ha 0] at he
  simp [own] at he

end Grows

/-- What has been added to an earlier trace. -/
def since (before after : Trace) : Trace := after.drop before.length

/-- The own events of a directive are those between its entry and its exit. -/
theorem own_since {P : Event → Prop} {t u : Trace} {tag : String} (h : Grows P (t ++ [.enter tag]) u) :
    ∀ event ∈ own 0 (since t (u ++ [.leave])), P event := by
  obtain ⟨a, rfl, ha, hP⟩ := h
  intro event he
  have hs : since t (t ++ [.enter tag] ++ a ++ [.leave]) = .enter tag :: (a ++ [.leave]) := by
    simp [since]
  rw [hs, show own 0 (.enter tag :: (a ++ [.leave])) = own 1 (a ++ [.leave]) from rfl, own_append ha] at he
  simp only [own, List.append_nil] at he
  exact hP event he

/-- An event between the entry and the exit, with balanced events around it, is the directive's own. -/
theorem mem_own_since {P Q : Event → Prop} {t u v : Trace} {tag : String} {event : Event}
    (h : event.isPlain = true) (hbefore : Grows P (t ++ [.enter tag]) u) (hafter : Grows Q (u ++ [event]) v) :
    event ∈ own 0 (since t (v ++ [.leave])) := by
  obtain ⟨a, rfl, ha, -⟩ := hbefore
  obtain ⟨b, rfl, -, -⟩ := hafter
  have hs : since t (t ++ [.enter tag] ++ a ++ [event] ++ b ++ [.leave]) =
      .enter tag :: (a ++ event :: (b ++ [.leave])) := by simp [since]
  rw [hs, show own 0 (.enter tag :: (a ++ event :: (b ++ [.leave]))) = own 1 (a ++ event :: (b ++ [.leave]))
    from rfl, own_append ha, own_plain h, if_pos rfl]
  exact List.mem_append_right _ (List.mem_cons_self ..)

end Trace

end Transclusion

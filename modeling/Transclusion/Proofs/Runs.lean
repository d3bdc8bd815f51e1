import Transclusion.Inclusion.Run

/-! Reasoning about runs.

A run is taken apart at its binds: it stops in its first part, or goes on from
where that part left the state (`start_bind`). What every part of a run respects,
the whole respects: `Keeps` says so of one run and a relation between the states
before and behind it, which is to be reflexive and transitive, and `Agree` of two
runs side by side, whose outcomes are the same and whose states stay related. What
holds only behind a result is said by `Reaches`. -/
namespace Transclusion

/-! ### Results -/

section
variable {ε α : Type} {x : Except ε α}

theorem Result.eq_ok_of_toOption {a : α} (h : x.toOption = some a) : x = .ok a := by
  cases x with
  | error => cases h
  | ok => exact congrArg _ (Option.some.inj h)

theorem Result.exists_of_isOk (h : x.isOk = true) : ∃ a, x = .ok a := by
  cases x with
  | error => cases h
  | ok a => exact ⟨a, rfl⟩

end

namespace Inclusion.Run

variable {σ τ α β : Type}

/-! ### Where a run leads -/

@[simp] theorem start_pure (a : α) (s : σ) : (pure a : Run σ α).start s = (.ok a, s) := rfl

@[simp] theorem start_throw (fault : Fault) (s : σ) :
    (throw fault : Run σ α).start s = (.error fault, s) := rfl

@[simp] theorem start_get (s : σ) : (get : Run σ σ).start s = (.ok s, s) := rfl

@[simp] theorem start_ofExcept (e : Except Fault α) (s : σ) : (ofExcept e).start s = (e, s) := rfl

@[simp] theorem start_change (f : σ → σ) (s : σ) : (change f).start s = (.ok (), f s) := rfl

@[simp] theorem start_zoom (get : σ → τ) (put : τ → σ → σ) (m : Run τ α) (s : σ) :
    (zoom get put m).start s = ((m.start (get s)).1, put (m.start (get s)).2 s) := rfl

theorem start_bind (m : Run σ α) (f : α → Run σ β) (s : σ) :
    (m >>= f).start s =
      match m.start s with
      | (.ok a, t) => (f a).start t
      | (.error fault, t) => (.error fault, t) := by
  show (ExceptT.bindCont f (m s).1) (m s).2 = _
  unfold start
  rcases m s with ⟨_ | _, _⟩ <;> rfl

theorem start_bind_ok {m : Run σ α} {s t : σ} {a : α} (h : m.start s = (.ok a, t)) (f : α → Run σ β) :
    (m >>= f).start s = (f a).start t := by rw [start_bind, h]

theorem start_bind_error {m : Run σ α} {s t : σ} {fault : Fault} (h : m.start s = (.error fault, t))
    (f : α → Run σ β) : (m >>= f).start s = (.error fault, t) := by rw [start_bind, h]

/-- A run that comes to a result has come to one in its first part. -/
theorem start_bind_eq_ok {m : Run σ α} {f : α → Run σ β} {s u : σ} {b : β}
    (h : (m >>= f).start s = (.ok b, u)) :
    ∃ a t, m.start s = (.ok a, t) ∧ (f a).start t = (.ok b, u) := by
  rw [start_bind] at h
  split at h
  · next a t hm => exact ⟨a, t, hm, h⟩
  · simp at h

theorem start_onFault (m : Run σ α) (handle : Fault → Run σ α) (s : σ) :
    (m.onFault handle).start s =
      match m.start s with
      | (.ok a, t) => (.ok a, t)
      | (.error fault, t) => (handle fault).start t := rfl

theorem start_finallyDo (m : Run σ α) (after : σ → Except Fault σ) (s : σ) :
    (m.finallyDo after).start s =
      match after (m.start s).2 with
      | .ok u => ((m.start s).1, u)
      | .error fault => (.error fault, (m.start s).2) := rfl

/-! ### What a run keeps -/

/-- What the first part of a run respects and the second does, from where the first left the state. -/
theorem related_bind {R : σ → σ → Prop} (trans : ∀ ⦃s t u⦄, R s t → R t u → R s u) {m : Run σ α}
    {f : α → Run σ β} {s : σ} (hm : R s (m.start s).2)
    (hf : ∀ a t, m.start s = (.ok a, t) → R t ((f a).start t).2) : R s ((m >>= f).start s).2 := by
  rw [start_bind]
  rcases hs : m.start s with ⟨fault | a, t⟩ <;> rw [hs] at hm
  · exact hm
  · exact trans hm (hf a t hs)

/-- The states before and behind the run are related. -/
def Keeps (R : σ → σ → Prop) (m : Run σ α) : Prop := ∀ s, R s (m.start s).2

namespace Keeps

variable {R : σ → σ → Prop}

theorem mono {S : σ → σ → Prop} {m : Run σ α} (hm : Keeps R m) (h : ∀ s t, R s t → S s t) :
    Keeps S m := fun s => h _ _ (hm s)

protected theorem pure (refl : ∀ s, R s s) (a : α) : Keeps R (pure a : Run σ α) := fun s => refl s

protected theorem throw (refl : ∀ s, R s s) (fault : Fault) : Keeps R (throw fault : Run σ α) :=
  fun s => refl s

theorem ofExcept (refl : ∀ s, R s s) (e : Except Fault α) : Keeps R (Run.ofExcept e : Run σ α) :=
  fun s => refl s

theorem bind (trans : ∀ ⦃s t u⦄, R s t → R t u → R s u) {m : Run σ α} {f : α → Run σ β}
    (hm : Keeps R m) (hf : ∀ a, Keeps R (f a)) : Keeps R (m >>= f) :=
  fun s => related_bind (R := R) trans (hm s) fun a t _ => hf a t

/-- A run that first looks at the state. -/
theorem look {f : σ → Run σ β} (hf : ∀ s, R s ((f s).start s).2) : Keeps R (get >>= f) := hf

theorem onFault (trans : ∀ ⦃s t u⦄, R s t → R t u → R s u) {m : Run σ α}
    {handle : Fault → Run σ α} (hm : Keeps R m) (hh : ∀ fault, Keeps R (handle fault)) :
    Keeps R (m.onFault handle) := by
  intro s
  have h := hm s
  rw [start_onFault]
  rcases hs : m.start s with ⟨fault | a, t⟩ <;> rw [hs] at h
  · exact trans h (hh fault t)
  · exact h

end Keeps

/-- Where the run comes to a result, the states before and behind it are related. -/
def Reaches (R : σ → σ → Prop) (m : Run σ α) : Prop := ∀ s a t, m.start s = (.ok a, t) → R s t

theorem Keeps.reaches {R : σ → σ → Prop} {m : Run σ α} (hm : Keeps R m) : Reaches R m := by
  intro s a t h
  have hs := hm s
  rw [h] at hs
  exact hs

theorem Reaches.behind {R S : σ → σ → Prop} (trans : ∀ ⦃s t u⦄, R s t → S t u → S s u)
    {m : Run σ α} {f : α → Run σ β} (hm : Keeps R m) (hf : ∀ a, Reaches S (f a)) :
    Reaches S (m >>= f) := by
  intro s b u h
  obtain ⟨a, t, hs, ht⟩ := start_bind_eq_ok h
  have hfirst := hm s
  rw [hs] at hfirst
  exact trans hfirst (hf a t b u ht)

/-! ### Two runs side by side -/

/-- From related states the runs come to the same outcome and to related states. -/
def Agree (R : σ → τ → Prop) (m : Run σ α) (n : Run τ α) : Prop :=
  ∀ s t, R s t → (m.start s).1 = (n.start t).1 ∧ R (m.start s).2 (n.start t).2

namespace Agree

variable {R : σ → τ → Prop}

/-- From related states both runs come to one outcome. -/
theorem exists_start {m : Run σ α} {n : Run τ α} (hm : Agree R m n) {s : σ} {t : τ} (h : R s t) :
    ∃ o s' t', m.start s = (o, s') ∧ n.start t = (o, t') ∧ R s' t' :=
  ⟨_, _, _, rfl, Prod.ext (hm s t h).1.symm rfl, (hm s t h).2⟩

protected theorem pure (a : α) : Agree R (pure a) (pure a) := fun _ _ h => ⟨rfl, h⟩

protected theorem throw (fault : Fault) : Agree (α := α) R (throw fault) (throw fault) :=
  fun _ _ h => ⟨rfl, h⟩

theorem ofExcept (e : Except Fault α) : Agree R (Run.ofExcept e) (Run.ofExcept e) :=
  fun _ _ h => ⟨rfl, h⟩

theorem bind {m : Run σ α} {n : Run τ α} {f : α → Run σ β} {g : α → Run τ β} (hm : Agree R m n)
    (hf : ∀ a, Agree R (f a) (g a)) : Agree R (m >>= f) (n >>= g) := by
  intro s t h
  obtain ⟨o, s', t', hs, ht, hr⟩ := hm.exists_start h
  rw [start_bind, start_bind, hs, ht]
  cases o with
  | error fault => exact ⟨rfl, hr⟩
  | ok a => exact hf a s' t' hr

/-- Both runs go the same way. -/
theorem ite {P : Prop} [Decidable P] {m m' : Run σ α} {n n' : Run τ α} (h : P → Agree R m n)
    (h' : ¬P → Agree R m' n') : Agree R (if P then m else m') (if P then n else n') := by
  split
  · next hp => exact h hp
  · next hp => exact h' hp

/-- Both runs report their faults anew. -/
theorem onFault {m : Run σ α} {n : Run τ α} {handle : Fault → Run σ α} {handle' : Fault → Run τ α}
    (hm : Agree R m n) (hh : ∀ fault, Agree R (handle fault) (handle' fault)) :
    Agree R (m.onFault handle) (n.onFault handle') := by
  intro s t h
  obtain ⟨o, s', t', hs, ht, hr⟩ := hm.exists_start h
  rw [start_onFault, start_onFault, hs, ht]
  cases o with
  | error fault => exact hh fault s' t' hr
  | ok a => exact ⟨rfl, hr⟩

/-- With a second part that gives what it is given. -/
theorem andThen {m : Run σ α} {n : Run τ α} {f : α → Run σ α} (hm : Agree R m n)
    (hf : ∀ a, Agree R (f a) (pure a)) : Agree R (m >>= f) n := by
  rw [← bind_pure n]
  exact hm.bind hf

end Agree

end Inclusion.Run

end Transclusion

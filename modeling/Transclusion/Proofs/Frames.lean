import Transclusion.Proofs.Ordering
import Transclusion.Proofs.Places
import Transclusion.Proofs.Slots

/-! What the frames of a running template hold.

At a place of a run its books are in order (`Env.Settled`): a name
that no code of the open frames binds has, in whatever slots there are for it, its
value among the variables of the template. It takes that no other name is compatible
with it, as the two would share a slot. Assignments keep this up, since they fill
slots of names that the frame binds (`Settled.assign`), and so do new frames, since a
slot for a name that is not bound is filled from the variables (`Settled.enter`). Where a
macro has taken frames along, they are in order when they are opened again, whatever they
hold (`settled_reopened`). What a directive sees is put together of the same books, but by
another rule (`get?_visible_of_binds`, `get?_visible_of_not_binds`). -/
namespace Transclusion.Template

namespace Frame

variable (f : Frame)

theorem lookup_filter_ne {slots : List (String × Option Value)} {key other : String} (h : other ≠ key) :
    (slots.filter fun (n, _) => n ≠ key).lookup other = slots.lookup other := by
  induction slots with
  | nil => rfl
  | cons entry rest ih =>
    obtain ⟨n, v⟩ := entry
    by_cases hn : n = key
    · rw [List.filter_cons_of_neg (by simpa using hn), ih, List.lookup_cons,
        beq_false_of_ne fun he => h (he.trans hn)]
    · rw [List.filter_cons_of_pos (by simpa using hn), List.lookup_cons, List.lookup_cons, ih]

/-- Compatible names have one slot. -/
theorem get?_put (name other : String) (v : Option Value) :
    (f.put name v).get? other =
      if Text.compatibleName other = Text.compatibleName name then v else f.get? other := by
  unfold get? put
  dsimp only
  split
  · next h => rw [h, List.lookup_cons_self, Option.join_some]
  · next h => rw [List.lookup_cons, beq_false_of_ne h, lookup_filter_ne h]

end Frame

namespace Env

variable {env : Env} {s : Symbols} {name : String}

/-- The symbols of the open frames, the innermost first. -/
def shape (env : Env) : List Symbols := env.frames.map Frame.symbols

/-- The names with slots in frames. -/
def namesOf (shape : List Symbols) : List String := shape.flatMap fun s => s.loads.map Prod.fst

theorem slotNames_eq (env : Env) : env.slotNames = namesOf env.shape := by
  rw [slotNames, namesOf, shape, List.flatMap_map]

/-- Code of an open frame binds a name. -/
def Binds (env : Env) (name : String) : Prop := ∃ s ∈ env.shape, name ∈ s.stores

/-- No other name of the open frames is compatible with a name. -/
def Sole (env : Env) (name : String) : Prop :=
  ∀ s ∈ env.shape, ∀ other, s.has other = true ∨ other ∈ s.stores →
    Text.compatibleName other = Text.compatibleName name → other = name

/-- No variable has two values, and slots for a name that is not bound hold the variable. -/
structure Settled (env : Env) : Prop where
  given : env.given.Distinct
  distinct : env.changed.Distinct
  isSound : ∀ s ∈ env.shape, s.IsSound
  read (name : String) : ¬env.Binds name → env.Sole name →
    ∀ f ∈ env.frames, f.symbols.has name = true → f.get? name = env.resolve name

/-! ### Opening a frame -/

theorem symbols_filled (env : Env) (f : Frame) (entry : String × Load) :
    (env.filled f entry).symbols = f.symbols := by
  obtain ⟨name, load⟩ := entry
  cases load <;> rfl

theorem symbols_emptied (f : Frame) (entry : String × Load) : (emptied f entry).symbols = f.symbols := by
  obtain ⟨name, load⟩ := entry
  cases load <;> rfl

theorem symbols_foldl {α : Type} (step : Frame → α → Frame) (h : ∀ f a, (step f a).symbols = f.symbols)
    (items : List α) (f : Frame) : (items.foldl step f).symbols = f.symbols := by
  induction items generalizing f with
  | nil => rfl
  | cons first rest ih => rw [List.foldl_cons, ih, h]

theorem get?_filled {other : String} {load : Load}
    (h : Text.compatibleName other = Text.compatibleName name → other = name ∧ load = .resolve) (f : Frame) :
    (env.filled f (other, load)).get? name = if other = name then env.resolve name else f.get? name := by
  by_cases hname : other = name
  · obtain ⟨-, rfl⟩ := h (by rw [hname])
    subst hname
    rw [if_pos rfl]
    exact (f.get?_put other other _).trans (if_pos rfl)
  · have hother (v : Option Value) : (f.put other v).get? name = f.get? name :=
      (f.get?_put other name v).trans (if_neg fun hc => hname (h hc.symm).1)
    rw [if_neg hname]
    cases load
    · exact hother _
    · exact hother _
    · rfl
    · rfl

/-- If slots that a name shares are its own and filled from the variables, they hold the variable. -/
theorem get?_foldl_filled {loads : List (String × Load)}
    (h : ∀ other load, (other, load) ∈ loads → Text.compatibleName other = Text.compatibleName name →
      other = name ∧ load = .resolve) (f : Frame) :
    (loads.foldl env.filled f).get? name =
      if name ∈ loads.map Prod.fst then env.resolve name else f.get? name := by
  induction loads generalizing f with
  | nil => rfl
  | cons entry rest ih =>
    obtain ⟨other, load⟩ := entry
    rw [List.foldl_cons, ih fun n l hmem => h n l (List.mem_cons_of_mem _ hmem),
      get?_filled (h other load (List.mem_cons_self ..)), List.map_cons]
    by_cases hname : other = name
    · simp [hname]
    · rw [if_neg hname]
      by_cases hmem : name ∈ rest.map Prod.fst
      · rw [if_pos hmem, if_pos (List.mem_cons_of_mem _ hmem)]
      · rw [if_neg hmem, if_neg fun h => (List.mem_cons.1 h).elim (Ne.symm hname) hmem]

theorem get?_foldl_emptied {loads : List (String × Load)}
    (h : ∀ other load, (other, load) ∈ loads → Text.compatibleName other = Text.compatibleName name →
      other = name ∧ load = .resolve) (f : Frame) :
    (loads.foldl emptied f).get? name = f.get? name := by
  induction loads generalizing f with
  | nil => rfl
  | cons entry rest ih =>
    obtain ⟨other, load⟩ := entry
    rw [List.foldl_cons, ih fun n l hmem => h n l (List.mem_cons_of_mem _ hmem)]
    cases load with
    | empty =>
      refine (f.get?_put other name none).trans (if_neg fun hc => ?_)
      exact nomatch (h other .empty (List.mem_cons_self ..) hc.symm).2
    | _ => rfl

/-- A slot that is to be empty is emptied. -/
theorem get?_foldl_emptied_of_mem {loads : List (String × Load)} (hmem : (name, .empty) ∈ loads) (f : Frame) :
    (loads.foldl emptied f).get? name = none := by
  -- Once it is empty it stays so.
  have hstays (loads : List (String × Load)) (f : Frame) (hf : f.get? name = none) :
      (loads.foldl emptied f).get? name = none := by
    induction loads generalizing f with
    | nil => exact hf
    | cons entry rest ih =>
      obtain ⟨other, load⟩ := entry
      refine ih _ ?_
      cases load with
      | empty =>
        refine (f.get?_put other name none).trans ?_
        rw [hf, ite_self]
      | _ => exact hf
  obtain ⟨before, after, rfl⟩ := List.append_of_mem hmem
  rw [List.foldl_append, List.foldl_cons]
  exact hstays _ _ ((Frame.get?_put _ name name none).trans (if_pos rfl))

/-- Opening a frame puts it before the others. -/
theorem enter_eq (env : Env) (s : Symbols) (values : Bindings) (kind : FrameKind) :
    ∃ f : Frame, env.enter s values kind = { env with frames := f :: env.frames } ∧ f.symbols = s ∧
      (∀ name, (∀ other load, (other, load) ∈ s.loads →
        Text.compatibleName other = Text.compatibleName name → other = name ∧ load = .resolve) →
        s.has name = true → f.get? name = env.resolve name) ∧
      ∀ name, (name, .empty) ∈ s.loads → f.get? name = none := by
  refine ⟨_, rfl, ?_, fun name hsole hhas => ?_, fun name hempty => get?_foldl_emptied_of_mem hempty _⟩
  · rw [symbols_foldl _ symbols_emptied, symbols_foldl _ env.symbols_filled]
    exact symbols_foldl (fun f (entry : String × Value) => f.put entry.1 (some entry.2)) (fun _ _ => rfl) _ _
  · obtain ⟨load, hload⟩ := Symbols.has_iff.1 hhas
    rw [get?_foldl_emptied hsole, get?_foldl_filled hsole, if_pos (List.mem_map_of_mem hload)]

theorem shape_enter (env : Env) (s : Symbols) (values : Bindings) (kind : FrameKind) :
    (env.enter s values kind).shape = s :: env.shape := by
  obtain ⟨f, henter, rfl, -⟩ := env.enter_eq s values kind
  rw [henter]
  rfl

/-- Opening a frame keeps the books in order. -/
theorem Settled.enter (h : Settled env) (hs : s.IsSound) (values : Bindings) (kind : FrameKind) :
    Settled (env.enter s values kind) := by
  have hshape := env.shape_enter s values kind
  obtain ⟨f, henter, hsymbols, hread, -⟩ := env.enter_eq s values kind
  rw [henter] at hshape ⊢
  refine ⟨h.given, h.distinct, fun t ht => ?_, fun name hbinds hsole g hg hhas => ?_⟩
  · rw [hshape, List.mem_cons] at ht
    exact ht.elim (fun he => he ▸ hs) (h.isSound t)
  · have hmem : s ∈ shape { env with frames := f :: env.frames } := by simp [hshape]
    have houter : ∀ t ∈ env.shape, t ∈ shape { env with frames := f :: env.frames } := fun t ht => by
      simp [hshape, ht]
    rcases List.mem_cons.1 hg with rfl | hg
    · refine hread name (fun other load hload hc => ?_) (hsymbols ▸ hhas)
      obtain rfl := hsole s hmem other (.inl (Symbols.has_iff.2 ⟨load, hload⟩)) hc
      exact ⟨rfl, (hs other load hload).resolve_right fun hstored => hbinds ⟨s, hmem, hstored⟩⟩
    · exact h.read name (fun ⟨t, ht, hn⟩ => hbinds ⟨t, houter t ht, hn⟩)
        (fun t ht => hsole t (houter t ht)) g hg hhas

/-! ### Assigning -/

theorem shape_put (env : Env) (name : String) (v : Value) : (env.put name v).shape = env.shape := by
  unfold put
  split
  · next frame outer hframes => simp only [shape, hframes, List.map_cons]; rfl
  · rfl

@[simp] theorem resolve_put (env : Env) (name other : String) (v : Value) :
    (env.put name v).resolve other = env.resolve other := by
  unfold put
  split <;> rfl

/-- Filling a slot of a name that the innermost frame binds keeps the books in order. -/
theorem Settled.put (h : Settled env) (hname : env.Binds name) (v : Value) : Settled (env.put name v) := by
  have hshape := env.shape_put name v
  have hbinds (other : String) : (env.put name v).Binds other ↔ env.Binds other := by rw [Binds, Binds, hshape]
  have hsole (other : String) : (env.put name v).Sole other ↔ env.Sole other := by rw [Sole, Sole, hshape]
  cases hframes : env.frames with
  | nil =>
    rwa [Env.put, hframes]
  | cons frame outer =>
    have hput : env.put name v = { env with frames := frame.put name (some v) :: outer } := by
      rw [Env.put, hframes]
    refine ⟨?_, ?_, fun t ht => h.isSound t (by rwa [hshape] at ht), fun other hother hs g hg hhas => ?_⟩
    · exact hput ▸ h.given
    · exact hput ▸ h.distinct
    · rw [hbinds] at hother
      rw [hsole] at hs
      rw [resolve_put]
      rw [hput] at hg
      rcases List.mem_cons.1 hg with rfl | hg
      · have hframe := h.read other hother hs frame (by simp [hframes]) hhas
        refine (frame.get?_put name other _).trans ((if_neg fun hc => ?_).trans hframe)
        -- The slot of a name that is bound is not shared.
        obtain ⟨t, ht, hstored⟩ := hname
        obtain rfl := hs t ht name (.inr hstored) hc.symm
        exact hother ⟨t, ht, hstored⟩
      · exact h.read other hother hs g (by simp [hframes, hg]) hhas

/-- Changing a variable whose name is bound keeps the books in order. -/
theorem Settled.change (h : Settled env) (hname : env.Binds name) (v : Value) :
    Settled { env with changed := env.changed.insert name v } where
  given := h.given
  distinct := h.distinct.insert name v
  isSound := h.isSound
  read other hother hsole f hf hhas := by
    have hne : other ≠ name := fun he => hother (he ▸ hname)
    rw [h.read other hother hsole f hf hhas]
    unfold resolve
    dsimp only
    rw [Bindings.get?_insert, if_neg hne]

theorem Settled.putAll {values : Bindings} (h : Settled env)
    (hvalues : ∀ entry ∈ values, env.Binds entry.1) :
    Settled (values.foldl (fun (env : Env) (name, v) => env.put name v) env) ∧
      (values.foldl (fun (env : Env) (name, v) => env.put name v) env).shape = env.shape := by
  induction values generalizing env with
  | nil => exact ⟨h, rfl⟩
  | cons entry rest ih =>
    have hshape := env.shape_put entry.1 entry.2
    have hrest : ∀ entry' ∈ rest, (env.put entry.1 entry.2).Binds entry'.1 := fun entry' hmem => by
      rw [Binds, hshape]
      exact hvalues entry' (List.mem_cons_of_mem _ hmem)
    obtain ⟨hsettled, hstays⟩ := ih (h.put (hvalues entry (List.mem_cons_self ..)) entry.2) hrest
    exact ⟨hsettled, hstays.trans hshape⟩

theorem Settled.changeAll {values : Bindings} (h : Settled env)
    (hvalues : ∀ entry ∈ values, env.Binds entry.1) (slot : String → Option Value) :
    Settled { env with changed := values.foldl (fun (changed : Bindings) (name, v) =>
      changed.insert name ((slot name).getD v)) env.changed } := by
  induction values generalizing env with
  | nil => exact h
  | cons entry rest ih =>
    exact ih (h.change (hvalues entry (List.mem_cons_self ..)) _) fun entry' hmem =>
      hvalues entry' (List.mem_cons_of_mem _ hmem)

/-- Assigning to names that are bound keeps the books in order, and opens no frame. -/
theorem Settled.assign {values : Bindings} (h : Settled env)
    (hvalues : ∀ entry ∈ values, env.Binds entry.1) :
    Settled (env.assign values) ∧ (env.assign values).shape = env.shape := by
  obtain ⟨hsettled, hshape⟩ := h.putAll hvalues
  unfold Env.assign
  dsimp only
  split
  · refine ⟨hsettled.changeAll (fun entry hmem => ?_) _, hshape⟩
    rw [Binds, hshape]
    exact hvalues entry hmem
  · exact ⟨hsettled, hshape⟩

theorem resolve_putAll (env : Env) (values : Bindings) (name : String) :
    (values.foldl (fun (env : Env) (name, v) => env.put name v) env).resolve name = env.resolve name := by
  induction values generalizing env with
  | nil => rfl
  | cons entry rest ih => rw [List.foldl_cons, ih, resolve_put]

theorem get?_reassign_eq_none {slot : String → Option Value} {values changed : Bindings}
    (h : (values.foldl (fun (changed : Bindings) (name, v) => changed.insert name ((slot name).getD v))
      changed).get? name = none) : changed.get? name = none := by
  induction values generalizing changed with
  | nil => exact h
  | cons entry rest ih =>
    have hfirst := ih h
    rw [Bindings.get?_insert] at hfirst
    split at hfirst
    · cases hfirst
    · exact hfirst

/-- Assigning takes no variable away. -/
theorem resolve_assign_eq_none {values : Bindings} (h : (env.assign values).resolve name = none) :
    env.resolve name = none := by
  unfold Env.assign at h
  dsimp only at h
  split at h
  · rw [← env.resolve_putAll values name]
    unfold resolve at h ⊢
    split at h
    · cases h
    · next hnone => rw [get?_reassign_eq_none hnone]; exact h
  · rwa [resolve_putAll] at h

/-! ### Frames that were taken along -/

theorem distinct_globals : Bindings.Distinct globals := by
  unfold Bindings.Distinct globals
  decide

/-- A directive sees one value of a name. -/
theorem Settled.distinct_visible (h : Settled env) : env.visible.Distinct :=
  ((h.given.update env.changed).update env.locals).map env.close

/-- What is seen around a body is in order. -/
theorem Settled.around (h : Settled env) (isScoped : Bool) : Settled (env.around isScoped) := by
  refine ⟨?_, Bindings.distinct_nil, nofun, fun _ _ _ _ hf => absurd hf List.not_mem_nil⟩
  cases isScoped with
  | true => exact h.distinct_visible
  | false => exact (h.given.update env.changed).map env.close

end Env

end Transclusion.Template

import Transclusion.Template.Slots

/-! What reading a template does to the slots of a frame.

Reading part after part only adds to a frame (`Symbols.Extends`): it keeps its
slots and the names bound in it, and a slot that is filled in another way than
from the variables belongs to a name that is bound in the frame (`IsSound`). So the
frame in which a body runs has a slot for every name that stands in the body, but
for those that have one around it, and binds every name that the body assigns to
(`extends_symbols`, `within_choice`). -/
namespace Transclusion.Template

namespace Symbols

theorem has_iff {s : Symbols} {name : String} : s.has name = true ↔ ∃ load, (name, load) ∈ s.loads := by
  rw [has, List.lookup_isSome_iff]
  simp

theorem mem_loads_of_lookup {s : Symbols} {name : String} {load : Load} (h : s.loads.lookup name = some load) :
    (name, load) ∈ s.loads := by
  obtain ⟨before, after, hloads, -⟩ := List.lookup_eq_some_iff.1 h
  rw [hloads]
  exact List.mem_append_right _ (List.mem_cons_self ..)

theorem mem_loads_setLoad {s : Symbols} {name other : String} {load l : Load} :
    (other, l) ∈ (s.setLoad name load).loads ↔
      other ≠ name ∧ (other, l) ∈ s.loads ∨ other = name ∧ l = load := by
  unfold setLoad
  split
  · next hhas =>
    obtain ⟨l₀, hmem⟩ := has_iff.1 hhas
    constructor
    · intro h
      obtain ⟨⟨n, k⟩, hn, heq⟩ := List.mem_map.1 h
      dsimp only at heq
      split at heq
      · next hname =>
        cases heq
        exact .inr ⟨hname, rfl⟩
      · next hname =>
        cases heq
        exact .inl ⟨hname, hn⟩
    · rintro (⟨hne, h⟩ | ⟨rfl, rfl⟩)
      · exact List.mem_map.2 ⟨(other, l), h, if_neg hne⟩
      · exact List.mem_map.2 ⟨(other, l₀), hmem, if_pos rfl⟩
  · next hhas =>
    rw [List.mem_append, List.mem_singleton, Prod.mk.injEq]
    refine or_congr_left ⟨fun h => ⟨?_, h⟩, And.right⟩
    rintro rfl
    exact hhas (has_iff.2 ⟨l, h⟩)

theorem has_setLoad {s : Symbols} {name other : String} {load : Load} :
    (s.setLoad name load).has other = true ↔ s.has other = true ∨ other = name := by
  simp only [has_iff, mem_loads_setLoad]
  by_cases h : other = name <;> simp [h]

@[simp] theorem stores_setLoad (s : Symbols) (name : String) (load : Load) :
    (s.setLoad name load).stores = s.stores := by
  unfold setLoad
  split <;> rfl

@[simp] theorem loads_addStore (s : Symbols) (name : String) : (s.addStore name).loads = s.loads := by
  unfold addStore
  split <;> rfl

theorem has_addStore (s : Symbols) (name other : String) : (s.addStore name).has other = s.has other := by
  rw [has, has, loads_addStore]

theorem mem_stores_addStore {s : Symbols} {name other : String} :
    other ∈ (s.addStore name).stores ↔ other ∈ s.stores ∨ other = name := by
  unfold addStore
  split
  · next h =>
    refine ⟨.inl, fun h' => h'.elim id ?_⟩
    rintro rfl
    simpa using h
  · simp

/-- A slot that is not filled from the variables belongs to a name that is bound. -/
def IsSound (s : Symbols) : Prop := ∀ name load, (name, load) ∈ s.loads → load = .resolve ∨ name ∈ s.stores

/-- A frame has the slots of another, and binds what it binds. -/
structure Within (s t : Symbols) : Prop where
  has (name : String) : s.has name = true → t.has name = true
  stores (name : String) : name ∈ s.stores → name ∈ t.stores

theorem Within.trans {s t u : Symbols} (h : s.Within t) (h' : t.Within u) : s.Within u :=
  ⟨fun n hn => h'.has n (h.has n hn), fun n hn => h'.stores n (h.stores n hn)⟩

/-- A frame later in the reading. -/
structure Extends (s t : Symbols) : Prop extends s.Within t where
  isSound : s.IsSound → t.IsSound

namespace Extends

theorem refl (s : Symbols) : s.Extends s := ⟨⟨fun _ => id, fun _ => id⟩, id⟩

theorem trans {s t u : Symbols} (h : s.Extends t) (h' : t.Extends u) : s.Extends u :=
  ⟨h.toWithin.trans h'.toWithin, fun hs => h'.isSound (h.isSound hs)⟩

theorem foldl {α : Type} {f : Symbols → α → Symbols} (h : ∀ (s : Symbols) a, s.Extends (f s a)) (items : List α)
    (s : Symbols) : s.Extends (items.foldl f s) := by
  induction items generalizing s with
  | nil => exact .refl s
  | cons first rest ih => exact (h s first).trans (ih _)

end Extends

/-- A slot for a name that is bound, or that is filled from the variables. -/
theorem extends_setLoad {s : Symbols} {name : String} {load : Load}
    (h : load = .resolve ∨ name ∈ s.stores) : s.Extends (s.setLoad name load) where
  has other hother := has_setLoad.2 (.inl hother)
  stores other hother := by rwa [stores_setLoad]
  isSound hs other l hl := by
    rw [stores_setLoad]
    rcases mem_loads_setLoad.1 hl with ⟨-, hmem⟩ | ⟨rfl, rfl⟩
    · exact hs other l hmem
    · exact h

theorem extends_addStore (s : Symbols) (name : String) : s.Extends (s.addStore name) where
  has other hother := by rwa [has_addStore]
  stores other hother := mem_stores_addStore.2 (.inl hother)
  isSound hs other l hl := (hs other l (by rwa [loads_addStore] at hl)).imp_right
    fun hmem => mem_stores_addStore.2 (.inl hmem)

section
variable (outer : List String) (s : Symbols)

theorem extends_read (name : String) : s.Extends (s.read outer name) := by
  unfold read
  split
  · exact .refl s
  · exact extends_setLoad (.inl rfl)

theorem extends_store (name : String) : s.Extends (s.store outer name) := by
  refine (extends_addStore s name).trans ?_
  unfold store
  dsimp only
  split
  · exact .refl _
  · exact extends_setLoad (.inr (mem_stores_addStore.2 (.inr rfl)))

theorem extends_readAll (e : Expr) : s.Extends (s.readAll outer e) := .foldl (extends_read outer) e.names s

theorem extends_storeAll (target : Target) : s.Extends (s.storeAll outer target) :=
  (Extends.foldl (extends_read outer) target.holders s).trans (.foldl (extends_store outer) _ _)

/-- A name that is read has a slot in the frame or around it. -/
theorem has_read (name : String) : (s.read outer name).has name = true ∨ name ∈ outer := by
  unfold read
  split
  · next h =>
    rw [Bool.or_eq_true, List.contains_iff_mem] at h
    exact h
  · exact .inl (has_setLoad.2 (.inr rfl))

theorem mem_stores_store (name : String) : name ∈ (s.store outer name).stores := by
  have hadded : name ∈ (s.addStore name).stores := mem_stores_addStore.2 (.inr rfl)
  unfold store
  dsimp only
  split
  · exact hadded
  · rwa [stores_setLoad]

/-- Whatever is stored one after another is bound. -/
theorem mem_stores_foldl {names : List String} {name : String} (h : name ∈ names) :
    name ∈ (names.foldl (Symbols.store outer) s).stores := by
  induction names generalizing s with
  | nil => exact absurd h List.not_mem_nil
  | cons first rest ih =>
    rcases List.mem_cons.1 h with rfl | hrest
    · exact (Extends.foldl (extends_store outer) rest _).stores name (mem_stores_store outer s name)
    · exact ih _ hrest

theorem mem_stores_storeAll {target : Target} {name : String} (h : name ∈ target.names.map Prod.fst) :
    name ∈ (s.storeAll outer target).stores := mem_stores_foldl outer _ h

end

/-! ### Branches -/

/-- A frame with the slots of a branch and the names bound in it. -/
def absorb (m b : Symbols) : Symbols :=
  b.stores.foldl addStore (b.loads.foldl (fun (m : Symbols) (n, l) => m.setLoad n l) m)

theorem merge_eq (outer : List String) (s : Symbols) (branches : List Symbols) :
    s.merge outer branches = (s.branchStores branches).foldl (fun (m : Symbols) name =>
      m.setLoad name (if outer.contains name then .alias else .resolve)) (branches.foldl absorb s) := rfl

theorem mem_stores_foldl_addStore {s : Symbols} {names : List String} {name : String} :
    name ∈ (names.foldl addStore s).stores ↔ name ∈ s.stores ∨ name ∈ names := by
  induction names generalizing s with
  | nil => simp
  | cons first rest ih => rw [List.foldl_cons, ih, mem_stores_addStore, List.mem_cons, or_assoc]

theorem loads_foldl_addStore (s : Symbols) (names : List String) :
    (names.foldl addStore s).loads = s.loads := by
  induction names generalizing s with
  | nil => rfl
  | cons first rest ih => rw [List.foldl_cons, ih, loads_addStore]

theorem stores_foldl_setLoad (s : Symbols) (loads : List (String × Load)) :
    (loads.foldl (fun (m : Symbols) (n, l) => m.setLoad n l) s).stores = s.stores := by
  induction loads generalizing s with
  | nil => rfl
  | cons first rest ih => rw [List.foldl_cons, ih, stores_setLoad]

theorem mem_stores_absorb {m b : Symbols} {name : String} :
    name ∈ (m.absorb b).stores ↔ name ∈ m.stores ∨ name ∈ b.stores := by
  rw [absorb, mem_stores_foldl_addStore, stores_foldl_setLoad]

theorem mem_loads_foldl_setLoad {s : Symbols} {loads : List (String × Load)} {name : String} {load : Load}
    (h : (name, load) ∈ (loads.foldl (fun (m : Symbols) (n, l) => m.setLoad n l) s).loads) :
    (name, load) ∈ s.loads ∨ (name, load) ∈ loads := by
  induction loads generalizing s with
  | nil => exact .inl h
  | cons first rest ih =>
    obtain ⟨n, l⟩ := first
    rcases ih h with h | h
    · rcases mem_loads_setLoad.1 h with ⟨-, h⟩ | ⟨rfl, rfl⟩
      · exact .inl h
      · exact .inr (List.mem_cons_self ..)
    · exact .inr (List.mem_cons_of_mem _ h)

theorem has_foldl_setLoad {s : Symbols} {loads : List (String × Load)} {name : String} :
    (loads.foldl (fun (m : Symbols) (n, l) => m.setLoad n l) s).has name = true ↔
      s.has name = true ∨ ∃ load, (name, load) ∈ loads := by
  induction loads generalizing s with
  | nil => simp
  | cons first rest ih =>
    obtain ⟨n, l⟩ := first
    rw [List.foldl_cons, ih, has_setLoad, or_assoc]
    refine or_congr_right ⟨?_, ?_⟩
    · rintro (rfl | ⟨load, h⟩)
      · exact ⟨l, List.mem_cons_self ..⟩
      · exact ⟨load, List.mem_cons_of_mem _ h⟩
    · rintro ⟨load, h⟩
      rcases List.mem_cons.1 h with h | h
      · exact .inl (Prod.mk.inj h).1
      · exact .inr ⟨load, h⟩

theorem has_absorb {m b : Symbols} {name : String} :
    (m.absorb b).has name = true ↔ m.has name = true ∨ b.has name = true := by
  rw [has_iff (s := b), ← has_foldl_setLoad, has, has, absorb, loads_foldl_addStore]

theorem isSound_absorb {m b : Symbols} (hm : m.IsSound) (hb : b.IsSound) : (m.absorb b).IsSound := by
  intro name load h
  rw [absorb, loads_foldl_addStore] at h
  rw [mem_stores_absorb]
  rcases mem_loads_foldl_setLoad h with h | h
  · exact (hm name load h).imp_right .inl
  · exact (hb name load h).imp_right .inr

/-- All branches are in the frame after them, which is sound if they are. -/
theorem foldl_absorb (s : Symbols) (branches : List Symbols) :
    (∀ b ∈ s :: branches, b.Within (branches.foldl absorb s)) ∧
      ((∀ b ∈ s :: branches, b.IsSound) → (branches.foldl absorb s).IsSound) := by
  induction branches generalizing s with
  | nil => simp [(Extends.refl s).toWithin]
  | cons first rest ih =>
    obtain ⟨hwithin, hsound⟩ := ih (s.absorb first)
    have habsorbed := hwithin _ (List.mem_cons_self ..)
    refine ⟨fun b hb => ?_, fun h => ?_⟩
    · rcases List.mem_cons.1 hb with rfl | hb
      · exact Within.trans ⟨fun n hn => has_absorb.2 (.inl hn), fun n hn => mem_stores_absorb.2 (.inl hn)⟩
          habsorbed
      · rcases List.mem_cons.1 hb with rfl | hb
        · exact Within.trans ⟨fun n hn => has_absorb.2 (.inr hn), fun n hn => mem_stores_absorb.2 (.inr hn)⟩
            habsorbed
        · exact hwithin b (List.mem_cons_of_mem _ hb)
    · refine hsound fun b hb => ?_
      rcases List.mem_cons.1 hb with rfl | hb
      · exact isSound_absorb (h s (List.mem_cons_self ..)) (h first (by simp))
      · exact h b (by simp [hb])

theorem mem_branches_of_mem_branchStores {s : Symbols} {branches : List Symbols} {name : String}
    (h : name ∈ s.branchStores branches) : ∃ b ∈ branches, name ∈ b.stores := by
  rw [branchStores, List.mem_eraseDups, List.mem_filter, List.mem_flatMap] at h
  exact h.1

/-- The frame after branches extends the frame with all of them. -/
theorem extends_foldl_absorb (outer : List String) (s : Symbols) (branches : List Symbols) :
    (branches.foldl absorb s).Extends (s.merge outer branches) := by
  rw [merge_eq]
  -- The names that get slots last are bound in some branch.
  have hbound : ∀ name ∈ s.branchStores branches, name ∈ (branches.foldl absorb s).stores := by
    intro name hname
    obtain ⟨b, hb, hmem⟩ := mem_branches_of_mem_branchStores hname
    exact ((foldl_absorb s branches).1 b (List.mem_cons_of_mem s hb)).stores name hmem
  generalize s.branchStores branches = names at hbound
  generalize branches.foldl absorb s = m at hbound
  induction names generalizing m with
  | nil => exact .refl m
  | cons first rest ih =>
    refine (extends_setLoad (.inr (hbound first (List.mem_cons_self ..)))).trans (ih _ fun name hname => ?_)
    rw [stores_setLoad]
    exact hbound name (List.mem_cons_of_mem first hname)

theorem within_merge (outer : List String) {s b : Symbols} {branches : List Symbols} (h : b ∈ branches) :
    b.Within (s.merge outer branches) :=
  ((foldl_absorb s branches).1 b (List.mem_cons_of_mem s h)).trans
    (extends_foldl_absorb outer s branches).toWithin

theorem extends_merge (outer : List String) {s : Symbols} {branches : List Symbols}
    (h : ∀ b ∈ branches, s.Extends b) : s.Extends (s.merge outer branches) where
  toWithin := ((foldl_absorb s branches).1 s (List.mem_cons_self ..)).trans
    (extends_foldl_absorb outer s branches).toWithin
  isSound hs := by
    refine (extends_foldl_absorb outer s branches).isSound ((foldl_absorb s branches).2 fun b hb => ?_)
    exact (List.mem_cons.1 hb).elim (fun heq => heq ▸ hs) fun hb => (h b hb).isSound hs

end Symbols

open Symbols

mutual

/-- Reading a part extends the frame. -/
theorem extends_symbols (outer : List String) (s : Symbols) : (part : Part) →
    s.Extends (part.symbols outer s)
  | .data _ | .directive _ _ | .escaping _ _ | .block _ _ _ _ _ => .refl s
  | .print e | .inherit e _ | .load e _ _ | .filtered e _ => extends_readAll outer s e
  | .assign target e => (extends_readAll outer s e).trans (extends_storeAll outer _ target)
  | .assignRegion target _ _ => extends_storeAll outer s target
  | .choice test body further otherwise => by
    refine (extends_readAll outer s test).trans (extends_merge outer fun b hb => ?_)
    simp only [List.mem_cons, List.not_mem_nil, or_false] at hb
    rcases hb with rfl | rfl | rfl
    · exact extends_symbolsAfter outer _ body
    · exact extends_symbolsAfter outer _ further
    · exact extends_symbolsAfter outer _ otherwise
  | .loop _ range _ _ _ _ => extends_readAll outer s range
  | .scoped _ items _ => .foldl (extends_readAll outer) items s
  | .define name _ _ _ _ => extends_store outer s name
  | .calling e args _ _ _ _ => extends_readAll outer s (.call e args)

theorem extends_symbolsAfter (outer : List String) (s : Symbols) : (parts : List Part) →
    s.Extends (symbolsAfter outer s parts)
  | [] => .refl s
  | part :: rest => (extends_symbols outer s part).trans (extends_symbolsAfter outer _ rest)

end

/-- A choice leaves the frame with the slots of all its branches. -/
theorem within_choice (outer : List String) (s : Symbols) (test : Expr) {body further otherwise branch : List Part}
    (h : branch ∈ [body, further, otherwise]) :
    (symbolsAfter outer (s.readAll outer test) branch).Within
      ((Part.choice test body further otherwise).symbols outer s) := by
  refine within_merge outer ?_
  simp only [List.mem_cons, List.not_mem_nil, or_false] at h ⊢
  rcases h with rfl | rfl | rfl
  · exact .inl rfl
  · exact .inr (.inl rfl)
  · exact .inr (.inr rfl)

end Transclusion.Template

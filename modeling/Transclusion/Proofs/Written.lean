import Transclusion.Proofs.Frames

/-! What an expression would read that is written at a place.

A directive does not show the names in its markup to the reading of the template, so
the frames around it are made as if it named nothing. What a name would be read as at
its place, if it were written there, is told from these frames (`Env.written?`). A name
that some frame has a slot for is read from it. Any other is read from the variables,
for which the innermost frame would make one more slot; and so is a name that this
frame has kept an empty slot for, as it binds the name before it reads it. Of a name
that a frame has something for if it is asked, as a loop has its state, nothing can be
told where no code asks.

That this is what would be read is a fact about the reading of templates: how a slot is
filled that a name has at the end of a body is settled where the name first stands in
it (`Symbols.Fills`). So an expression that a body begins with is read as what is told
where the body begins without it (`Env.written?_enter`). -/
namespace Transclusion.Template

namespace Symbols
variable {p : Load → Prop} {outer : List String} {name other : String} {s m b : Symbols}

/-- The slot of a name, if there is one, is filled in one way, for which `p` holds, as it does for every way that the
slot may yet come to be filled in. -/
structure Fills (outer : List String) (p : Load → Prop) (name : String) (s : Symbols) : Prop where
  one {load load' : Load} : (name, load) ∈ s.loads → (name, load') ∈ s.loads → load = load'
  holds {load : Load} : (name, load) ∈ s.loads → p load
  bound : s.has name = true ∨ p (if outer.contains name then .alias else .empty)
  branched : p (if outer.contains name then .alias else .resolve)

namespace Fills

theorem setLoad (h : s.Fills outer p name) {load : Load} (hload : other = name → p load) :
    (s.setLoad other load).Fills outer p name := by
  have hbound : (s.setLoad other load).has name = true ∨ p (if outer.contains name then .alias else .empty) :=
    h.bound.imp_left fun hhas => has_setLoad.2 (.inl hhas)
  by_cases hother : other = name
  · subst hother
    have hmem {l : Load} (hl : (other, l) ∈ (s.setLoad other load).loads) : l = load :=
      (mem_loads_setLoad.1 hl).elim (fun hne => absurd rfl hne.1) And.right
    exact ⟨fun hl hl' => (hmem hl).trans (hmem hl').symm, fun hl => hmem hl ▸ hload rfl, hbound, h.branched⟩
  · have hmem {l : Load} (hl : (name, l) ∈ (s.setLoad other load).loads) : (name, l) ∈ s.loads :=
      (mem_loads_setLoad.1 hl).elim And.right fun heq => absurd heq.1.symm hother
    exact ⟨fun hl hl' => h.one (hmem hl) (hmem hl'), fun hl => h.holds (hmem hl), hbound, h.branched⟩

theorem of_loads {t : Symbols} (h : s.Fills outer p name) (hloads : t.loads = s.loads) : t.Fills outer p name :=
  ⟨fun hl hl' => h.one (hloads ▸ hl) (hloads ▸ hl'), fun hl => h.holds (hloads ▸ hl),
    by rw [has, hloads]; exact h.bound, h.branched⟩

theorem foldl {α : Type} {f : Symbols → α → Symbols} (items : List α)
    (hf : ∀ s : Symbols, ∀ a ∈ items, s.Fills outer p name → (f s a).Fills outer p name)
    (h : s.Fills outer p name) : (items.foldl f s).Fills outer p name := by
  induction items generalizing s with
  | nil => exact h
  | cons first rest ih =>
    exact ih (fun s a ha => hf s a (List.mem_cons_of_mem _ ha)) (hf s first (List.mem_cons_self ..) h)

theorem absorb (hm : m.Fills outer p name) (hb : b.Fills outer p name) : (m.absorb b).Fills outer p name := by
  refine of_loads (foldl b.loads (fun s entry hentry h => ?_) hm) (loads_foldl_addStore _ _)
  obtain ⟨n, load⟩ := entry
  refine h.setLoad ?_
  rintro rfl
  exact hb.holds hentry

theorem merge {branches : List Symbols} (h : s.Fills outer p name)
    (hbranches : ∀ b ∈ branches, b.Fills outer p name) : (s.merge outer branches).Fills outer p name := by
  rw [merge_eq]
  refine foldl _ (fun s other _ h => h.setLoad ?_) (foldl _ (fun s b hb h => h.absorb (hbranches b hb)) h)
  rintro rfl
  exact h.branched

theorem read (h : s.Fills outer p name) (other : String) : (s.read outer other).Fills outer p name := by
  unfold Symbols.read
  split
  · exact h
  · next hnew =>
    refine h.setLoad ?_
    rintro rfl
    rw [Bool.or_eq_true, not_or, Bool.not_eq_true, Bool.not_eq_true] at hnew
    have hbranched := h.branched
    rwa [hnew.2, if_neg Bool.false_ne_true] at hbranched

theorem store (h : s.Fills outer p name) (other : String) : (s.store outer other).Fills outer p name := by
  have hadded : (s.addStore other).Fills outer p name := h.of_loads (loads_addStore s other)
  unfold Symbols.store
  dsimp only
  split
  · exact hadded
  · next hnew =>
    refine hadded.setLoad ?_
    rintro rfl
    exact hadded.bound.resolve_left hnew

theorem readAll (h : s.Fills outer p name) (e : Expr) : (s.readAll outer e).Fills outer p name :=
  foldl e.names (fun _ other _ h => h.read other) h

theorem storeAll (h : s.Fills outer p name) (target : Target) : (s.storeAll outer target).Fills outer p name :=
  foldl _ (fun _ other _ h => h.store other) (foldl _ (fun _ other _ h => h.read other) h)

end Fills

end Symbols

section
open Symbols
variable {p : Load → Prop} {outer : List String} {name : String}

mutual

/-- Reading a part does not fill the slot of a name in another way. -/
theorem fills_symbols {s : Symbols} (h : s.Fills outer p name) : (part : Part) →
    (part.symbols outer s).Fills outer p name
  | .data _ | .directive _ _ | .escaping _ _ | .block _ _ _ _ _ => h
  | .print e | .inherit e _ | .load e _ _ | .filtered e _ => h.readAll e
  | .assign target e => (h.readAll e).storeAll target
  | .assignRegion target _ _ => h.storeAll target
  | .choice test body further otherwise => by
    refine (h.readAll test).merge fun b hb => ?_
    simp only [List.mem_cons, List.not_mem_nil, or_false] at hb
    rcases hb with rfl | rfl | rfl
    · exact fills_symbolsAfter (h.readAll test) body
    · exact fills_symbolsAfter (h.readAll test) further
    · exact fills_symbolsAfter (h.readAll test) otherwise
  | .loop _ range _ _ _ _ => h.readAll range
  | .scoped _ items _ => .foldl items (fun _ e _ h => h.readAll e) h
  | .define name _ _ _ _ => h.store name
  | .calling e args _ _ _ _ => h.readAll (.call e args)

theorem fills_symbolsAfter {s : Symbols} (h : s.Fills outer p name) : (parts : List Part) →
    (symbolsAfter outer s parts).Fills outer p name
  | [] => h
  | part :: rest => fills_symbolsAfter (fills_symbols h part) rest

end

end

/-! ### Names at a place -/

/-- The names that a frame has something for, if its code asks for it. -/
def FrameKind.offers : FrameKind → List String
  | .template => [selfName]
  | .loop => [loopName]
  | .block => [selfName, parentName]
  | .routine => [Routine.callerName, Routine.namedName, Routine.restName]
  | .region => []

/-- The slot of a name is given its value by whoever opens the frame, or is empty until code fills it, as code has. -/
def Frame.owns (f : Frame) (name : String) : Bool :=
  f.symbols.loads.lookup name = some .given ||
    f.symbols.loads.lookup name = some .empty && (f.get? name).isSome

namespace Env
variable {env : Env} {name : String} {s : Symbols}

/-- Some frame has something for a name that no code asks it for, and no frame within that one has a value of its
own under the name. -/
def withholds (env : Env) (name : String) : Bool :=
  (env.frames.find? fun f => f.owns name || f.kind.offers.contains name).any (!·.owns name)

/-- The innermost frame binds a name before it reads it anywhere, and finds none around it. -/
def isAhead (env : Env) (name : String) : Bool :=
  env.frames.head?.any (·.symbols.loads.lookup name = some .empty)

/-- What an expression would read under a name that is written at this place: the variable if the innermost
frame would have to make a slot for the name, or to fill one that it has kept for later; else what the name
has in expressions. It cannot be told of a name that is withheld. -/
def written? (env : Env) (name : String) : Option Value :=
  if env.withholds name then none
  else if (env.slot name).isNone && ((env.frameOf? name).isNone || env.isAhead name) then
    some ((env.resolve name).getD (.undefined (.name name)))
  else some (env.valueOf name)

theorem exists_frameOf? (hs : s ∈ env.shape) (hhas : s.has name = true) : ∃ f, env.frameOf? name = some f := by
  obtain ⟨f, hf, rfl⟩ := List.mem_map.1 hs
  exact Option.isSome_iff_exists.1 (List.find?_isSome.2 ⟨f, hf, hhas⟩)

theorem slot_of_frameOf?_none (h : env.frameOf? name = none) : env.slot name = none := by rw [slot, h]; rfl

theorem valueOf_of_slot {v : Value} (h : env.slot name = some v) : env.valueOf name = v := by rw [valueOf, h]

/-- A name without a value is undefined, or has the mark of one that was given none. -/
theorem valueOf_of_slot_none (h : env.slot name = none) :
    env.valueOf name = .undefined (.name name) ∨
      (env.frameOf? name).bind (·.symbols.loads.lookup name) = some .given ∧ env.valueOf name = missingValue := by
  rw [valueOf, h]
  dsimp only
  split
  · next hgiven => exact .inr ⟨hgiven, rfl⟩
  · exact .inl rfl

theorem mem_namesOf_iff {shape : List Symbols} : name ∈ namesOf shape ↔ ∃ s ∈ shape, s.has name = true := by
  simp only [namesOf, List.mem_flatMap, Symbols.has_iff, List.mem_map, Prod.exists, exists_and_right,
    exists_eq_right]

theorem mem_slotNames_iff : name ∈ env.slotNames ↔ ∃ s ∈ env.shape, s.has name = true := by
  rw [slotNames_eq, mem_namesOf_iff]

/-- The innermost frame answers for the names that it has slots for. -/
theorem frameOf?_enter {f : Frame} {values : Bindings} {kind : FrameKind}
    (henter : env.enter s values kind = { env with frames := f :: env.frames }) (hsymbols : f.symbols = s)
    (hhas : s.has name = true) : (env.enter s values kind).frameOf? name = some f := by
  rw [henter, frameOf?, List.find?_cons, hsymbols, hhas]

/-- A name whose slot is filled from the variables is read as the variable, where the frame is opened. -/
theorem valueOf_enter_resolve {values : Bindings} {kind : FrameKind} (hhas : s.has name = true)
    (hload : ∀ load, (name, load) ∈ s.loads → load = .resolve) (hsole : (env.enter s values kind).Sole name) :
    (env.enter s values kind).slot name = env.resolve name ∧
      (env.enter s values kind).valueOf name = (env.resolve name).getD (.undefined (.name name)) := by
  have hshape := env.shape_enter s values kind
  obtain ⟨f, henter, hsymbols, hread, -⟩ := env.enter_eq s values kind
  have hframe := frameOf?_enter henter hsymbols hhas
  have hslot : (env.enter s values kind).slot name = env.resolve name := by
    rw [slot, hframe]
    refine hread name (fun other load hmem hc => ?_) hhas
    obtain rfl := hsole s (hshape ▸ List.mem_cons_self ..) other (.inl (Symbols.has_iff.2 ⟨load, hmem⟩)) hc
    exact ⟨rfl, hload load hmem⟩
  refine ⟨hslot, ?_⟩
  cases hresolve : env.resolve name with
  | some v => exact valueOf_of_slot (hslot.trans hresolve)
  | none =>
    refine (valueOf_of_slot_none (hslot.trans hresolve)).resolve_right fun hgiven => ?_
    have hlookup : s.loads.lookup name = some .given := by
      have hload := hgiven.1
      rwa [hframe, Option.bind_some, hsymbols] at hload
    cases hload .given (Symbols.mem_loads_of_lookup hlookup)

theorem isAhead_enter {values : Bindings} {kind : FrameKind} :
    (env.enter s values kind).isAhead name = decide (s.loads.lookup name = some .empty) := by
  obtain ⟨f, henter, rfl, -⟩ := env.enter_eq s values kind
  rw [henter]
  rfl

/-- Where a frame has a slot for a name and has not kept it for later, its slot is what is told. -/
theorem written?_eq_valueOf {f : Frame} (hkept : env.withholds name = false) (hframe : env.frameOf? name = some f)
    (hahead : env.isAhead name = false) : env.written? name = some (env.valueOf name) := by
  rw [written?, hkept, if_neg Bool.false_ne_true, hframe, hahead]
  simp

/-- Where a frame is opened, a name that has no slot around it and is not given one is told to be the variable. -/
theorem written?_enter_variable {values : Bindings} {kind : FrameKind}
    (hfills : s.Fills env.slotNames (fun load => load = .resolve ∨ load = .empty) name)
    (hnowhere : name ∉ env.slotNames) (hsole : (env.enter s values kind).Sole name)
    (hkept : (env.enter s values kind).withholds name = false) :
    (env.enter s values kind).written? name = some ((env.resolve name).getD (.undefined (.name name))) := by
  have hshape := env.shape_enter s values kind
  have hvariable (hslot : (env.enter s values kind).slot name = none)
      (hmade : (env.enter s values kind).frameOf? name = none ∨ (env.enter s values kind).isAhead name = true) :
      (env.enter s values kind).written? name = some ((env.resolve name).getD (.undefined (.name name))) := by
    have hfilled : ((env.enter s values kind).slot name).isNone &&
        (((env.enter s values kind).frameOf? name).isNone || (env.enter s values kind).isAhead name) := by
      rw [hslot]
      rcases hmade with hmade | hmade <;> simp [hmade]
    rw [written?, hkept, if_neg Bool.false_ne_true, if_pos hfilled]
    rfl
  by_cases hhas : s.has name = true
  · obtain ⟨load, hload⟩ := Symbols.has_iff.1 hhas
    rcases hfills.holds hload with rfl | rfl
    · obtain ⟨-, hvalue⟩ := valueOf_enter_resolve hhas (fun l hl => hfills.one hl hload) hsole
      rw [written?, hkept, if_neg Bool.false_ne_true, hvalue]
      exact ite_self _
    · obtain ⟨f, henter, hsymbols, -, hempty⟩ := env.enter_eq s values kind
      refine hvariable ?_ (.inr ?_)
      · rw [slot, frameOf?_enter henter hsymbols hhas]
        exact hempty name hload
      · obtain ⟨l, hlookup⟩ := Option.isSome_iff_exists.1 hhas
        rw [isAhead_enter, hlookup, hfills.one (Symbols.mem_loads_of_lookup hlookup) hload]
        rfl
  · have hframe : (env.enter s values kind).frameOf? name = none := by
      refine Option.not_isSome_iff_eq_none.1 fun hsome => ?_
      obtain ⟨f, hf, hfound⟩ := List.find?_isSome.1 hsome
      have hmem : f.symbols ∈ s :: env.shape := hshape ▸ List.mem_map_of_mem hf
      rcases List.mem_cons.1 hmem with heq | hmem
      · exact hhas (heq ▸ hfound)
      · exact hnowhere (mem_slotNames_iff.2 ⟨_, hmem, hfound⟩)
    exact hvariable (slot_of_frameOf?_none hframe) (.inl hframe)

/-- What is told of a name where a body begins is what an expression of that name is read as that the body begins
with instead. -/
theorem written?_enter {s₀ : Symbols} {e : Expr} (he : e.names = [name])
    (hone : ∀ load load', (name, load) ∈ s₀.loads → (name, load') ∈ s₀.loads → load = load')
    (hfilled : (name, .empty) ∉ s₀.loads) (body : List Part) (values : Bindings) (kind : FrameKind) :
    let without := env.enter (symbolsAfter env.slotNames s₀ body) values kind
    let with_ := env.enter (symbolsAfter env.slotNames s₀ (.print e :: body)) values kind
    without.Sole name → with_.Sole name → without.withholds name = false →
      without.written? name = some (with_.valueOf name) := by
  intro without with_ hsole hsole' hkept
  have hread : with_ = env.enter (symbolsAfter env.slotNames (s₀.read env.slotNames name) body) values kind := by
    show env.enter (symbolsAfter env.slotNames ((Part.print e).symbols env.slotNames s₀) body) values kind = _
    rw [Part.symbols, Symbols.readAll, he]
    rfl
  by_cases hknown : s₀.has name = true ∨ name ∈ env.slotNames
  · -- The name has a slot anyway, which is not kept for later.
    have hsame : with_ = without := by rw [hread, Symbols.read, if_pos (by simpa using hknown)]
    have hfills : (symbolsAfter env.slotNames s₀ body).Fills env.slotNames (· ≠ .empty) name := by
      refine fills_symbolsAfter ⟨hone _ _, ?_, ?_, ?_⟩ body
      · rintro load hload rfl
        exact hfilled hload
      · exact hknown.imp_right fun hmem => by rw [if_pos (List.contains_iff_mem.2 hmem)]; exact nofun
      · split <;> exact nofun
    have hahead : without.isAhead name = false := by
      rw [isAhead_enter, decide_eq_false_iff_not]
      exact fun hlookup => hfills.holds (Symbols.mem_loads_of_lookup hlookup) rfl
    have hshape := env.shape_enter (symbolsAfter env.slotNames s₀ body) values kind
    obtain ⟨s, hs, hhas⟩ : ∃ s ∈ without.shape, s.has name = true := by
      rcases hknown with hhas | hmem
      · exact ⟨_, hshape ▸ List.mem_cons_self .., (extends_symbolsAfter _ s₀ body).has name hhas⟩
      · obtain ⟨s, hs, hhas⟩ := mem_slotNames_iff.1 hmem
        exact ⟨s, hshape ▸ List.mem_cons_of_mem _ hs, hhas⟩
    obtain ⟨f, hframe⟩ := exists_frameOf? hs hhas
    rw [hsame, written?_eq_valueOf hkept hframe hahead]
  · -- The expression makes a slot, which is filled from the variables whatever comes behind it.
    obtain ⟨hnew, hnowhere⟩ := not_or.1 hknown
    have hunslotted (load : Load) : (name, load) ∉ s₀.loads := fun hload => hnew (Symbols.has_iff.2 ⟨load, hload⟩)
    have hcontains : env.slotNames.contains name = false := by simpa using hnowhere
    have hmade : s₀.read env.slotNames name = s₀.setLoad name .resolve := by
      rw [Symbols.read, if_neg (by simpa using hknown)]
    rw [hread, hmade] at hsole' ⊢
    have hhas : (s₀.setLoad name .resolve).has name = true := Symbols.has_setLoad.2 (.inr rfl)
    have hload {load : Load} (h : (name, load) ∈ (s₀.setLoad name .resolve).loads) : load = .resolve :=
      (Symbols.mem_loads_setLoad.1 h).elim (fun hne => absurd rfl hne.1) And.right
    have hslotted : (s₀.setLoad name .resolve).Fills env.slotNames (· = .resolve) name :=
      ⟨fun h h' => (hload h).trans (hload h').symm, hload, .inl hhas, by rw [hcontains]; rfl⟩
    have hvalue := (valueOf_enter_resolve ((extends_symbolsAfter _ _ body).has name hhas)
      (fun load => (fills_symbolsAfter hslotted body).holds) hsole').2
    rw [hvalue]
    refine written?_enter_variable (fills_symbolsAfter ⟨fun h => absurd h (hunslotted _),
      fun h => absurd h (hunslotted _), .inr ?_, ?_⟩ body) hnowhere hsole hkept
    · rw [hcontains]
      exact .inr rfl
    · rw [hcontains]
      exact .inl rfl

end Env

end Transclusion.Template

import Transclusion.Proofs.Frames

/-! Books kept along a run of a template.

The frame in which a place runs has what reading the parts that are left to run asks
for (`Env.Holds`), so the names that a part assigns to are bound in it. With that
every part leaves the books in order and the frames as they are (`settled_play`), so
does every way into a body (`settled_opens`), and so a run reaches only places with
books in order (`settled_reaches`), wherever it begins (`settled_begins`). On the way no
variable is lost, so that a place of the template itself has all that it was given. -/
namespace Transclusion.Template

open Inclusion Inclusion.Script

namespace Env

variable {env : Env} {shape : List Symbols} {part : Part} {rest parts : List Part}

/-- The innermost frame has the slots and binds the names that reading these parts asks for. -/
def Holds (shape : List Symbols) (parts : List Part) : Prop :=
  ∃ t outer s, shape = t :: outer ∧ (symbolsAfter (namesOf outer) s parts).Within t

namespace Holds

theorem tail (h : Holds shape (part :: rest)) : Holds shape rest := by
  obtain ⟨t, outer, s, hshape, hwithin⟩ := h
  exact ⟨t, outer, part.symbols (namesOf outer) s, hshape, hwithin⟩

theorem head (h : Holds shape (part :: rest)) :
    ∃ t outer s, shape = t :: outer ∧ (part.symbols (namesOf outer) s).Within t := by
  obtain ⟨t, outer, s, hshape, hwithin⟩ := h
  exact ⟨t, outer, s, hshape, (extends_symbolsAfter _ _ rest).toWithin.trans hwithin⟩

theorem branch {test : Expr} {body further otherwise : List Part}
    (h : Holds shape (.choice test body further otherwise :: rest))
    (hbranch : parts ∈ [body, further, otherwise]) : Holds shape parts := by
  obtain ⟨t, outer, s, hshape, hwithin⟩ := h.head
  exact ⟨t, outer, _, hshape, (within_choice _ s test hbranch).trans hwithin⟩

/-- Parts in the middle of others. -/
theorem behind {before : List Part} (h : Holds shape (before ++ parts)) : Holds shape parts := by
  induction before with
  | nil => exact h
  | cons first before ih => exact ih h.tail

/-- Every name that a part stores is bound. -/
theorem binds (h : Holds env.shape (part :: rest)) {name : String}
    (hstored : ∀ outer s, name ∈ (part.symbols outer s).stores) : env.Binds name := by
  obtain ⟨t, outer, s, hshape, hwithin⟩ := h.head
  exact ⟨t, by rw [hshape]; exact List.mem_cons_self .., hwithin.stores name (hstored _ s)⟩

end Holds

end Env

open Env

/-! ### The names of targets -/

mutual

/-- A target gives values to its own names. -/
theorem mem_names_of_bind (o : Options) : (target : Target) → (v : Value) → {bound : Bindings} →
    target.bind o v = .ok bound → ∀ entry ∈ bound, entry.1 ∈ target.names.map Prod.fst
  | .name n _, v, bound, h, entry, hentry => by
    rw [Target.bind, Except.ok.injEq] at h
    subst h
    rw [List.mem_singleton.1 hentry, Target.names]
    exact List.mem_singleton_self n
  | .attribute _ _, v, bound, h, _, _ => by
    rw [Target.bind] at h
    exact nomatch h
  | .tuple items, v, bound, h, entry, hentry => by
    have hitems : ∃ values, bindTargets o items values = .ok bound := by
      rw [Target.bind] at h
      cases hvalues : o.itemsOf v with
      | ok values =>
        simp only [hvalues] at h
        simp only [bind, Except.bind, pure, Except.pure] at h
        split at h
        · exact nomatch h
        · split at h
          · exact nomatch h
          · exact ⟨values, h⟩
      | error fault =>
        simp only [hvalues] at h
        cases fault <;> exact nomatch h
    obtain ⟨values, hvalues⟩ := hitems
    exact mem_names_of_bindTargets o items values hvalues entry hentry

theorem mem_names_of_bindTargets (o : Options) : (targets : List Target) → (values : List Value) →
    {bound : Bindings} → bindTargets o targets values = .ok bound →
    ∀ entry ∈ bound, entry.1 ∈ (namesOfTargets targets).map Prod.fst
  | [], values, bound, h, entry, hentry => by
    rw [bindTargets, Except.ok.injEq] at h
    · subst h
      exact absurd hentry List.not_mem_nil
    · simp
  | target :: rest, [], bound, h, entry, hentry => by
    rw [bindTargets, Except.ok.injEq] at h
    · subst h
      exact absurd hentry List.not_mem_nil
    · simp
  | target :: rest, v :: values, bound, h, entry, hentry => by
    rw [bindTargets] at h
    cases hfirst : target.bind o v with
    | error fault => simp [hfirst, bind, Except.bind] at h
    | ok first =>
      cases hrest : bindTargets o rest values with
      | error fault => simp [hfirst, hrest, bind, Except.bind] at h
      | ok more =>
        simp only [hfirst, hrest, bind, Except.bind, pure, Except.pure, Except.ok.injEq] at h
        subst h
        rw [namesOfTargets, List.map_append, List.mem_append]
        rcases List.mem_append.1 hentry with hentry | hentry
        · exact .inl (mem_names_of_bind o target v hfirst entry hentry)
        · exact .inr (mem_names_of_bindTargets o rest values hrest entry hentry)

end

namespace Compiled

variable {r : Recourse} {env env' : Env}

/-- The books are in order, the open frames are those of a place before, and no variable has been lost
since. -/
structure Kept (env env' : Env) : Prop where
  settled : Settled env'
  shape : env'.shape = env.shape
  keeps (name : String) : env'.resolve name = none → env.resolve name = none

theorem Kept.refl (h : Settled env) : Kept env env := ⟨h, rfl, fun _ => id⟩

theorem Kept.trans {env₁ : Env} (h : Kept env env₁) (h' : Kept env₁ env') : Kept env env' :=
  ⟨h'.settled, h'.shape.trans h.shape, fun name hname => h.keeps name (h'.keeps name hname)⟩

theorem Kept.of_pure (h : Settled env) {text text' : String}
    (hpure : (pure (text, env) : Script (String × Env)).Comes (text', env')) : Kept env env' := by
  cases comes_pure.1 hpure
  exact .refl h

/-- Assigning to names that are bound. -/
theorem Kept.assign {values : Bindings} (h : Settled env) (hvalues : ∀ entry ∈ values, env.Binds entry.1) :
    Kept env (env.assign values) :=
  ⟨(h.assign hvalues).1, (h.assign hvalues).2, fun _ => resolve_assign_eq_none⟩

/-- Assigning to the names of a target that is bound. -/
theorem kept_assign (h : Settled env) {o : Options} {target : Target} {v : Value} {bound : Bindings}
    (hnames : ∀ name ∈ target.names.map Prod.fst, env.Binds name) (hbound : target.bind o v = .ok bound) :
    Kept env (env.assign bound) :=
  .assign h fun entry hentry => hnames entry.1 (mem_names_of_bind o target v hbound entry hentry)

mutual

/-- A part leaves the books in order, and the frames as they are. -/
theorem settled_play (c : Compiled) (o : Options) {env env' : Env} {text : String} (h : Settled env)
    (rest : List Part) : (part : Part) → Holds env.shape (part :: rest) →
    (c.play r o env part).Comes (text, env') → Kept env env'
  | .data _, _, hplay => .of_pure h hplay
  | .print e, _, hplay => by
    simp only [play, comes_bind] at hplay
    obtain ⟨v, -, printed, -, hplay⟩ := hplay
    exact .of_pure h hplay
  | .directive tag markup, _, hplay => by
    simp only [play, comes_bind] at hplay
    obtain ⟨included, -, hplay⟩ := hplay
    exact .of_pure h hplay
  | .assign target e, hholds, hplay => by
    simp only [play] at hplay
    split at hplay
    · exact (not_comes_fail hplay).elim
    · simp only [comes_bind, comes_ofExcept] at hplay
      obtain ⟨v, -, bound, hbound, hplay⟩ := hplay
      cases comes_pure.1 hplay
      refine kept_assign h (fun name hname => hholds.binds fun outer s => ?_) hbound
      exact Symbols.mem_stores_storeAll outer _ hname
  | .assignRegion target e body, hholds, hplay => by
    simp only [play, comes_bind] at hplay
    obtain ⟨⟨inside, inner⟩, -, hplay⟩ := hplay
    split at hplay
    · exact (not_comes_fail hplay).elim
    · simp only [comes_bind, comes_ofExcept] at hplay
      obtain ⟨v, -, bound, hbound, hplay⟩ := hplay
      cases comes_pure.1 hplay
      refine kept_assign h (fun name hname => hholds.binds fun outer s => ?_) hbound
      exact Symbols.mem_stores_storeAll outer s hname
  | .choice test body further otherwise, hholds, hplay => by
    simp only [play, comes_bind] at hplay
    obtain ⟨holds, -, hplay⟩ := hplay
    cases holds with
    | true => exact settled_playAll c o h body (hholds.branch (by simp)) hplay
    | false =>
      obtain ⟨result, hfirst, hplay⟩ := comes_bind.1 hplay
      cases result with
      | none => exact settled_playAll c o h otherwise (hholds.branch (by simp)) hplay
      | some result =>
        cases comes_pure.1 hplay
        exact settled_playFirst c o h further (hholds.branch (by simp)) hfirst
  | .loop target range test isRecursive body otherwise, _, hplay => by
    simp only [play, comes_bind] at hplay
    obtain ⟨v, -, found, -, ⟨inside, hasRounds⟩, -, hplay⟩ := hplay
    cases hasRounds with
    | true => exact .of_pure h hplay
    | false =>
      obtain ⟨result, -, hplay⟩ := comes_bind.1 hplay
      exact .of_pure h hplay
  | .scoped targets items body, _, hplay => by
    simp only [play, comes_bind] at hplay
    obtain ⟨vs, -, bound, -, result, -, hplay⟩ := hplay
    exact .of_pure h hplay
  | .escaping e body, _, hplay => by
    simp only [play, comes_bind] at hplay
    obtain ⟨v, -, result, -, hplay⟩ := hplay
    exact .of_pure h hplay
  | .filtered e body, _, hplay => by
    simp only [play, comes_bind] at hplay
    obtain ⟨⟨inside, inner⟩, -, v, -, printed, -, hplay⟩ := hplay
    exact .of_pure h hplay
  | .block name isScoped isRequired line body, _, hplay => by
    simp only [play] at hplay
    split at hplay
    · exact (not_comes_fail hplay).elim
    · obtain ⟨result, -, hplay⟩ := comes_bind.1 hplay
      exact .of_pure h hplay
  | .inherit e line, _, hplay => by
    simp only [play, comes_bind] at hplay
    obtain ⟨-, -, hplay⟩ := hplay
    exact .of_pure h hplay
  | .load e isChoice isOptional, _, hplay => by
    simp only [play, comes_bind] at hplay
    obtain ⟨-, -, hplay⟩ := hplay
    exact .of_pure h hplay
  | .define name line parameters defaults body, hholds, hplay => by
    simp only [play] at hplay
    cases comes_pure.1 hplay
    refine .assign h fun entry hentry => ?_
    rw [List.mem_singleton.1 hentry]
    exact hholds.binds fun outer s => Symbols.mem_stores_store outer s name
  | .calling e args line parameters defaults body, _, hplay => by
    simp only [play, comes_bind] at hplay
    obtain ⟨v, -, given, -, w, -, printed, -, hplay⟩ := hplay
    exact .of_pure h hplay

theorem settled_playAll (c : Compiled) (o : Options) {env env' : Env} {text : String} (h : Settled env) :
    (parts : List Part) → Holds env.shape parts → (c.playAll r o env parts).Comes (text, env') →
    Kept env env'
  | [], _, hplay => .of_pure h hplay
  | part :: rest, hholds, hplay => by
    simp only [playAll, comes_bind] at hplay
    obtain ⟨⟨first, env₁⟩, hfirst, ⟨more, env₂⟩, hmore, hplay⟩ := hplay
    cases comes_pure.1 hplay
    have hkept := settled_play c o h rest part hholds hfirst
    exact hkept.trans (settled_playAll c o hkept.settled rest (by rw [hkept.shape]; exact hholds.tail) hmore)

theorem settled_playFirst (c : Compiled) (o : Options) {env env' : Env} {text : String} (h : Settled env) :
    (parts : List Part) → Holds env.shape parts → (c.playFirst r o env parts).Comes (some (text, env')) →
    Kept env env'
  | [], _, hplay => nomatch comes_pure.1 hplay
  | part :: rest, hholds, hplay => by
    cases part with
    | choice test body further otherwise =>
      simp only [playFirst, comes_bind] at hplay
      obtain ⟨holds, -, hplay⟩ := hplay
      cases holds with
      | true =>
        obtain ⟨result, hbody, hplay⟩ := comes_bind.1 hplay
        cases comes_pure.1 hplay
        exact settled_playAll c o h body (hholds.branch (by simp)) hbody
      | false => exact settled_playFirst c o h rest hholds.tail hplay
    | _ =>
      simp only [playFirst] at hplay
      exact settled_playFirst c o h rest hholds.tail hplay

end

end Compiled

end Transclusion.Template

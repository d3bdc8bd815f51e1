import Transclusion.Proofs.Clerks

/-! What a desk remembers.

A desk outlives the passes that it serves. What it remembers was prepared on it,
so that the clerk would prepare the same again, and the notice on it has been
shown (`Clerk.Backed`). A run on an aged desk is followed beside the same run on
an empty one (`Desk.Aged`): what the aged desk remembers or has shown is what it
had at first and what the other one has come to. So asking the clerk comes to
the same on both, and of what it writes only notices can be missing that have
been shown before (`agree_remembered_aged`). -/
namespace Transclusion

open Directive

/-- A trace is another one without some notices whose keys are among those given. -/
inductive Trace.Spares (shown : List String) : Trace → Trace → Prop
  | nil : Spares shown [] []
  | add {t u : Trace} (event : Event) : Spares shown t u → Spares shown (t ++ [event]) (u ++ [event])
  | spare {t u : Trace} {key : String} (tag detail : String) (particulars : Bindings) : key ∈ shown →
      Spares shown t u → Spares shown t (u ++ [.record (Notices.record tag key detail particulars)])

namespace Inclusion

theorem Desk.has_showing (d : Desk) (tag key detail : String) (particulars : Bindings) (other : String) :
    (d.showing tag key detail particulars).notices.has other = (other == key || d.notices.has other) :=
  List.contains_cons

namespace Clerk

/-! ### Backed desks -/

/-- What a desk remembers is what the clerk prepares, and the notice on it has been shown. -/
structure Backed (clerk : Clerk) (d : Desk) : Prop where
  prepared {tag : String} {markup : List Char} {invocation : Invocation} :
    d.memo.lookup (tag, String.ofList markup) = some invocation → clerk.prepared tag markup = .ok invocation
  shown {tag : String} {markup : List Char} {invocation : Invocation} :
    d.memo.lookup (tag, String.ofList markup) = some invocation → (clerk.notice? tag).isSome = true →
      d.notices.has tag = true

variable {clerk : Clerk}

theorem backed_empty (clerk : Clerk) : clerk.Backed .empty := ⟨by simp [Desk.empty], by simp [Desk.empty]⟩

theorem Backed.add {d : Desk} (h : clerk.Backed d) (event : Event) : clerk.Backed (d.add event) :=
  ⟨h.prepared, h.shown⟩

theorem has_announced (clerk : Clerk) (tag : String) (d : Desk) (key : String) :
    (clerk.announced tag d).notices.has key =
      (d.notices.has key || (key == tag && (clerk.notice? tag).isSome)) := by
  unfold announced
  split
  · next noticeTag detail hnotice =>
    rw [hnotice, Option.isSome_some, Bool.and_true]
    split
    · next hshown =>
      by_cases hkey : key = tag
      · rw [hkey, hshown, Bool.true_or]
      · rw [beq_false_of_ne hkey, Bool.or_false]
    · rw [Desk.has_showing, Bool.or_comm]
  · next hnotice => rw [hnotice, Option.isSome_none, Bool.and_false, Bool.or_false]

theorem Backed.announced {d : Desk} (h : clerk.Backed d) (tag : String) : clerk.Backed (clerk.announced tag d) where
  prepared hmemo := h.prepared (clerk.memo_announced tag d ▸ hmemo)
  shown hmemo hnotice := by
    rw [has_announced, h.shown (clerk.memo_announced tag d ▸ hmemo) hnotice, Bool.true_or]

/-- What is prepared may be remembered once the notice on it has been shown. -/
theorem Backed.remember {d : Desk} (h : clerk.Backed d) {tag : String} {markup : List Char}
    {invocation : Invocation} (hprepared : clerk.prepared tag markup = .ok invocation)
    (hshown : (clerk.notice? tag).isSome = true → d.notices.has tag = true) :
    clerk.Backed (d.remember tag markup invocation) := by
  have hcases {tag' : String} {markup' : List Char} {invocation' : Invocation}
      (hmemo : (d.remember tag markup invocation).memo.lookup (tag', String.ofList markup') = some invocation') :
      (tag' = tag ∧ markup' = markup ∧ invocation' = invocation) ∨
        d.memo.lookup (tag', String.ofList markup') = some invocation' := by
    by_cases heq : (tag', String.ofList markup') = (tag, String.ofList markup)
    · obtain ⟨rfl, hm⟩ := Prod.mk.inj heq
      rw [Desk.remember, hm, List.lookup_cons_self] at hmemo
      exact .inl ⟨rfl, String.ofList_injective hm, (Option.some.inj hmemo).symm⟩
    · simp only [Desk.remember, List.lookup_cons, beq_false_of_ne heq] at hmemo
      exact .inr hmemo
  constructor
  · intro tag' markup' invocation' hmemo
    rcases hcases hmemo with ⟨rfl, rfl, rfl⟩ | hmemo
    · exact hprepared
    · exact h.prepared hmemo
  · intro tag' markup' invocation' hmemo
    rcases hcases hmemo with ⟨rfl, -, -⟩ | hmemo
    · exact hshown
    · exact h.shown hmemo

/-- A backed desk stays one, also if a directive cannot be prepared. -/
theorem keeps_backed (tag : String) (markup : List Char) :
    (clerk.remembered tag markup).Keeps fun d e => clerk.Backed d → clerk.Backed e := by
  intro d h
  rw [start_remembered]
  cases d.memo.lookup (tag, String.ofList markup) with
  | some invocation => exact h
  | none =>
    cases hp : clerk.prepared tag markup with
    | error fault => exact h.announced tag
    | ok invocation =>
      refine (h.announced tag).remember hp fun hnotice => ?_
      rw [has_announced, hnotice]
      simp

end Clerk

/-! ### Aged desks -/

/-- A desk that was `past` at first, beside one that was empty: what it remembers and has shown is what it had
at first and what the other one has, and in what has been added to its trace only notices may be missing
that had been shown at first. -/
structure Desk.Aged (past d e : Desk) : Prop where
  notices (key : String) : d.notices.has key = (e.notices.has key || past.notices.has key)
  memo (key : String × String) : d.memo.lookup key = (e.memo.lookup key).or (past.memo.lookup key)
  trace : ∃ added, d.trace = past.trace ++ added ∧ Trace.Spares past.notices.shown added e.trace

namespace Desk

variable {past d e : Desk}

theorem aged_empty (past : Desk) : Aged past past .empty where
  notices key := by simp [empty, Notices.empty, Notices.has]
  memo key := by simp [empty]
  trace := ⟨[], by simp, .nil⟩

theorem Aged.add (h : Aged past d e) (event : Event) : Aged past (d.add event) (e.add event) where
  notices := h.notices
  memo := h.memo
  trace := by
    obtain ⟨added, htrace, hspares⟩ := h.trace
    exact ⟨added ++ [event], by rw [Desk.add, htrace, List.append_assoc], hspares.add event⟩

theorem Aged.remember (h : Aged past d e) (tag : String) (markup : List Char) (invocation : Invocation) :
    Aged past (d.remember tag markup invocation) (e.remember tag markup invocation) where
  notices := h.notices
  memo key := by
    simp only [Desk.remember, List.lookup_cons]
    split
    · rfl
    · exact h.memo key
  trace := h.trace

/-- The aged desk had remembered what is now remembered on the other one. -/
theorem Aged.remember_right (h : Aged past d e) {tag : String} {markup : List Char} {invocation : Invocation}
    (hpast : past.memo.lookup (tag, String.ofList markup) = some invocation)
    (hnone : e.memo.lookup (tag, String.ofList markup) = none) :
    Aged past d (e.remember tag markup invocation) where
  notices := h.notices
  memo key := by
    by_cases heq : key = (tag, String.ofList markup)
    · subst heq
      rw [h.memo, hnone, hpast, Desk.remember, List.lookup_cons_self]
      rfl
    · rw [h.memo, Desk.remember]
      simp only [List.lookup_cons, beq_false_of_ne heq]
  trace := h.trace

theorem Aged.showing (h : Aged past d e) (tag key detail : String) (particulars : Bindings) :
    Aged past (d.showing tag key detail particulars) (e.showing tag key detail particulars) where
  notices other := by rw [has_showing, has_showing, h.notices, Bool.or_assoc]
  memo := h.memo
  trace := (h.add (.record (Notices.record tag key detail particulars))).trace

/-- The aged desk had shown the notice that is now shown on the other one. -/
theorem Aged.showing_right (h : Aged past d e) (tag detail : String) (particulars : Bindings) {key : String}
    (hkey : past.notices.has key = true) : Aged past d (e.showing tag key detail particulars) where
  notices other := by
    rw [has_showing, h.notices]
    by_cases heq : other = key
    · rw [heq, hkey, Bool.or_true, Bool.or_true]
    · rw [beq_false_of_ne heq, Bool.false_or]
  memo := h.memo
  trace := by
    obtain ⟨added, htrace, hspares⟩ := h.trace
    exact ⟨added, htrace, .spare tag detail particulars (List.contains_iff_mem.1 hkey) hspares⟩

/-- The notice of a directive is shown on both desks, on neither, or only on the one that was empty. -/
theorem Aged.announced (h : Aged past d e) (clerk : Clerk) (tag : String) :
    Aged past (clerk.announced tag d) (clerk.announced tag e) := by
  unfold Clerk.announced
  cases clerk.notice? tag with
  | none => exact h
  | some notice =>
    simp only [h.notices]
    cases e.notices.has tag with
    | true => exact h
    | false =>
      cases hpast : past.notices.has tag with
      | true => exact h.showing_right _ _ _ hpast
      | false => exact h.showing ..

theorem Aged.announced_right (h : Aged past d e) (clerk : Clerk) {tag : String}
    (hshown : (clerk.notice? tag).isSome = true → past.notices.has tag = true) :
    Aged past d (clerk.announced tag e) := by
  unfold Clerk.announced
  cases hnotice : clerk.notice? tag with
  | none => exact h
  | some notice =>
    have hpast := hshown (by rw [hnotice]; rfl)
    simp only
    split
    · exact h
    · exact h.showing_right _ _ _ hpast

end Desk

namespace Clerk

variable {clerk : Clerk} {past : Desk}

/-- Asking comes to the same on an aged desk and on one that was empty. -/
theorem agree_remembered_aged (hpast : clerk.Backed past) (tag : String) (markup : List Char) :
    Run.Agree (Desk.Aged past) (clerk.remembered tag markup) (clerk.remembered tag markup) := by
  intro d e h
  rw [start_remembered, start_remembered, h.memo]
  cases he : e.memo.lookup (tag, String.ofList markup) with
  | some invocation => exact ⟨rfl, h⟩
  | none =>
    cases hp : past.memo.lookup (tag, String.ofList markup) with
    | some invocation =>
      -- Only the desk that was empty prepares, and shows the notice if there is one.
      rw [hpast.prepared hp]
      refine ⟨rfl, (h.announced_right clerk (hpast.shown hp)).remember_right hp ?_⟩
      rw [memo_announced, he]
    | none =>
      cases clerk.prepared tag markup with
      | error fault => exact ⟨rfl, h.announced clerk tag⟩
      | ok invocation => exact ⟨rfl, (h.announced clerk tag).remember tag markup invocation⟩

end Clerk

end Inclusion

end Transclusion

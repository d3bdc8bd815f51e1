import Transclusion.Proofs.Executions

/-! What a clerk answers.

For every directive a clerk has an answer at hand: the invocation that it
remembers, or what its registry and the markup come to (`Clerk.answer`). Asking
gives that answer and changes no other, however often and in whatever order
directives are met; on the desk it leaves records at most. -/
namespace Transclusion.Inclusion
open Directive

namespace Desk

theorem Recorded.refl (d : Desk) : Recorded d d := ⟨[], by simp⟩

theorem Recorded.trans ⦃d e f : Desk⦄ (h : Recorded d e) (h' : Recorded e f) : Recorded d f := by
  obtain ⟨records, he⟩ := h
  obtain ⟨more, hf⟩ := h'
  exact ⟨records ++ more, by rw [hf, he, List.map_append, List.append_assoc]⟩

/-- The desk behind a notice that is shown. -/
def showing (d : Desk) (tag key detail : String) (particulars : Bindings) : Desk :=
  { d with notices := ⟨key :: d.notices.shown⟩ }.add (.record (Notices.record tag key detail particulars))

/-- The desk on which an invocation is remembered. -/
def remember (d : Desk) (tag : String) (markup : List Char) (invocation : Invocation) : Desk :=
  { d with memo := ((tag, String.ofList markup), invocation) :: d.memo }

end Desk

/-- A way to prepare invocations from the markup of directives. -/
abbrev Preparing := String → List Char → Run Desk Invocation

/-- The invocation of a directive, prepared in that way at its first use and remembered. -/
def rememberedBy (prepare : Preparing) : Preparing := fun tag markup => do
  let key := (tag, String.ofList markup)
  match (← get).memo.lookup key with
  | some invocation => pure invocation
  | none =>
    let invocation ← prepare tag markup
    Run.change fun d => { d with memo := (key, invocation) :: d.memo }
    pure invocation

/-- Remembering comes to the same in two ways that prepare the same. -/
theorem agree_rememberedBy {R : Desk → Desk → Prop} {prepare prepare' : Preparing}
    (hmemo : ∀ d e, R d e → d.memo = e.memo)
    (hput : ∀ d e memo, R d e → R { d with memo } { e with memo })
    (hprepare : ∀ tag markup, Run.Agree R (prepare tag markup) (prepare' tag markup)) (tag : String)
    (markup : List Char) : Run.Agree R (rememberedBy prepare tag markup) (rememberedBy prepare' tag markup) := by
  intro d e h
  unfold rememberedBy
  rw [Run.start_bind, Run.start_bind, Run.start_get, Run.start_get]
  simp only [hmemo d e h]
  cases e.memo.lookup (tag, String.ofList markup) with
  | some invocation => exact ⟨rfl, h⟩
  | none =>
    refine Run.Agree.bind (hprepare tag markup) (fun invocation => .bind ?_ fun _ => .pure _) d e h
    intro d' e' h'
    rw [Run.start_change, Run.start_change, hmemo d' e' h']
    exact ⟨rfl, hput d' e' _ h'⟩

namespace Clerk

variable (clerk : Clerk)

theorem remembered_eq : clerk.remembered = rememberedBy clerk.prepare := rfl

/-- What markup comes to if it is not remembered. -/
def prepared (tag : String) (markup : List Char) : Except Fault Invocation := do
  let entry ← clerk.registry.entry tag
  Invocation.ofMarkup tag markup entry.strategy

/-- What the clerk answers for a directive. -/
def answer (d : Desk) (tag : String) (markup : List Char) : Except Fault Invocation :=
  match d.memo.lookup (tag, String.ofList markup) with
  | some invocation => .ok invocation
  | none => clerk.prepared tag markup

/-- On two desks the clerk has the same answers. -/
def SameAnswers (d e : Desk) : Prop := ∀ tag markup, clerk.answer d tag markup = clerk.answer e tag markup

variable {clerk}

theorem SameAnswers.refl (d : Desk) : clerk.SameAnswers d d := fun _ _ => rfl

theorem SameAnswers.symm {d e : Desk} (h : clerk.SameAnswers d e) : clerk.SameAnswers e d :=
  fun tag markup => (h tag markup).symm

theorem SameAnswers.trans ⦃d e f : Desk⦄ (h : clerk.SameAnswers d e) (h' : clerk.SameAnswers e f) :
    clerk.SameAnswers d f := fun tag markup => (h tag markup).trans (h' tag markup)

/-- Only what is remembered counts. -/
theorem sameAnswers_of_memo {d e : Desk} (h : d.memo = e.memo) : clerk.SameAnswers d e := by
  intro tag markup
  rw [answer, answer, h]

/-- Remembering an answer changes none. -/
theorem sameAnswers_remember {d : Desk} {tag : String} {markup : List Char} {invocation : Invocation}
    (h : clerk.answer d tag markup = .ok invocation) :
    clerk.SameAnswers d (d.remember tag markup invocation) := by
  intro tag' markup'
  by_cases heq : (tag', String.ofList markup') = (tag, String.ofList markup)
  · obtain ⟨rfl, hm⟩ := Prod.mk.inj heq
    obtain rfl := String.ofList_injective hm
    rw [h, answer, Desk.remember, List.lookup_cons_self]
  · simp only [answer, Desk.remember, List.lookup_cons, beq_false_of_ne heq]

/-- Records are added, and the answers stay. -/
def Settled (clerk : Clerk) (d e : Desk) : Prop := d.Recorded e ∧ clerk.SameAnswers d e

theorem Settled.refl (d : Desk) : clerk.Settled d d := ⟨.refl d, .refl d⟩

theorem Settled.trans ⦃d e f : Desk⦄ (h : clerk.Settled d e) (h' : clerk.Settled e f) :
    clerk.Settled d f := ⟨h.1.trans h'.1, h.2.trans h'.2⟩

/-! ### What asking does -/

/-- The notice that is announced when a directive is prepared, if one is: under which name, and in which words. -/
def notice? (clerk : Clerk) (tag : String) : Option (String × String) :=
  match clerk.noticeTag, clerk.registry.entry tag with
  | some noticeTag, .ok entry => (entry.deprecation.filter (· ≠ "")).map fun detail => (noticeTag, detail)
  | _, _ => none

/-- The desk behind the announcement for a directive. -/
def announced (clerk : Clerk) (tag : String) (d : Desk) : Desk :=
  match clerk.notice? tag with
  | some (noticeTag, detail) =>
    if d.notices.has tag then d else d.showing noticeTag tag detail [("directive", .text tag)]
  | none => d

theorem start_announce (tag key detail : String) (particulars : Bindings) (d : Desk) :
    (announce tag key detail particulars).start d =
      (.ok (), if d.notices.has key then d else d.showing tag key detail particulars) := by
  unfold announce Notices.announce
  rw [Run.start_change]
  by_cases hshown : d.notices.has key = true
  · simp only [if_pos hshown]
  · simp only [if_neg hshown]
    rfl

/-- Preparing comes to what the registry and the markup come to, whatever has been announced. -/
theorem start_prepare (clerk : Clerk) (tag : String) (markup : List Char) (d : Desk) :
    (clerk.prepare tag markup).start d = (clerk.prepared tag markup, clerk.announced tag d) := by
  unfold prepare prepared announced notice?
  rw [Run.start_bind, Run.start_ofExcept]
  cases clerk.registry.entry tag with
  | error fault => cases clerk.noticeTag <;> rfl
  | ok entry =>
    cases clerk.noticeTag with
    | none => rfl
    | some noticeTag =>
      cases hdetail : entry.deprecation with
      | none => simp only [hdetail]; rfl
      | some detail =>
        by_cases hne : detail = ""
        · subst hne
          simp only [hdetail]
          rfl
        · simp only [hdetail, Option.filter_some, decide_eq_true hne, if_true, Option.map_some]
          rw [if_pos hne, Run.start_bind, start_announce]
          rfl

/-- What is remembered is given; else it is prepared, and remembered unless it fails. -/
theorem start_remembered (clerk : Clerk) (tag : String) (markup : List Char) (d : Desk) :
    (clerk.remembered tag markup).start d =
      match d.memo.lookup (tag, String.ofList markup) with
      | some invocation => (.ok invocation, d)
      | none => match clerk.prepared tag markup with
        | .ok invocation => (.ok invocation, (clerk.announced tag d).remember tag markup invocation)
        | .error fault => (.error fault, clerk.announced tag d) := by
  unfold remembered
  rw [Run.start_bind, Run.start_get]
  simp only
  cases d.memo.lookup (tag, String.ofList markup) with
  | some invocation => rfl
  | none =>
    have hprepare := start_prepare clerk tag markup d
    cases hp : clerk.prepared tag markup with
    | error fault =>
      rw [hp] at hprepare
      exact Run.start_bind_error hprepare _
    | ok invocation =>
      rw [hp] at hprepare
      exact Run.start_bind_ok hprepare _

/-- An announcement leaves what is remembered alone. -/
theorem memo_announced (clerk : Clerk) (tag : String) (d : Desk) : (clerk.announced tag d).memo = d.memo := by
  unfold announced
  split
  · split <;> rfl
  · rfl

theorem settled_announced (clerk : Clerk) (tag : String) (d : Desk) : clerk.Settled d (clerk.announced tag d) := by
  refine ⟨?_, sameAnswers_of_memo (clerk.memo_announced tag d).symm⟩
  unfold announced
  split
  · split
    · exact .refl d
    · exact ⟨[_], rfl⟩
  · exact .refl d

/-- Asking gives the answer, and changes none. -/
theorem settled_remembered (clerk : Clerk) (tag : String) (markup : List Char) (d : Desk) :
    ((clerk.remembered tag markup).start d).1 = clerk.answer d tag markup ∧
      clerk.Settled d ((clerk.remembered tag markup).start d).2 := by
  rw [start_remembered, answer]
  cases hm : d.memo.lookup (tag, String.ofList markup) with
  | some invocation => exact ⟨rfl, .refl d⟩
  | none =>
    have hs := clerk.settled_announced tag d
    cases hp : clerk.prepared tag markup with
    | error fault => exact ⟨rfl, hs⟩
    | ok invocation =>
      refine ⟨rfl, hs.trans ⟨.refl _, sameAnswers_remember ?_⟩⟩
      rw [← hs.2, answer, hm, hp]

theorem keeps_remembered (tag : String) (markup : List Char) :
    (clerk.remembered tag markup).Keeps clerk.Settled := fun d => (clerk.settled_remembered tag markup d).2

theorem agree_remembered (tag : String) (markup : List Char) :
    Run.Agree clerk.SameAnswers (clerk.remembered tag markup) (clerk.remembered tag markup) := by
  intro d d' h
  obtain ⟨he, hs⟩ := clerk.settled_remembered tag markup d
  obtain ⟨he', hs'⟩ := clerk.settled_remembered tag markup d'
  exact ⟨(he.trans (h tag markup)).trans he'.symm, (hs.2.symm.trans h).trans hs'.2⟩

end Clerk

end Transclusion.Inclusion

import Transclusion.Proofs.Runs
import Transclusion.Template.Parser

/-! A literal as an expression.

A directive's markup is read as an expression. Where it is one literal and the tag
ends behind it, no level of the grammar has anything to add: every one reads what
the level below reads, finds the end of the tag, at which no operator stands, and
stays there (`start_joined`). So the markup that is met is the text of the
literal (`directiveTag_literal`). -/
namespace Transclusion.Template.Parser

open Inclusion

variable {α : Type} {r : Reading}

/-- The next token ends the tag. -/
def AtEnd (r : Reading) : Prop := ∃ line more, r.tokens = ⟨line, .blockEnd⟩ :: more

/-- A reader that changes nothing at the end of a tag, whatever it gives. -/
def Stays (m : Parser α) (a : α) : Prop := ∀ r, AtEnd r → m.start r = (.ok a, r)

@[simp] theorem start_modify (f : Reading → Reading) (r : Reading) :
    (modify f : Parser PUnit).start r = (.ok ⟨⟩, f r) := rfl

theorem start_current {t : Token} {more : List Token} (h : r.tokens = t :: more) :
    current.start r = (.ok t, r) := by
  unfold current
  rw [Run.start_bind, Run.start_get]
  simp only [h]
  rfl

theorem start_loop {step : α → Parser (Option α)} {a : α} (h : (step a).start r = (.ok none, r)) :
    (loop step a).start r = (.ok a, r) := by
  unfold loop
  rw [Run.start_bind, Run.start_get]
  show (iterate step (r.size + 1) a).start r = _
  rw [iterate, Run.start_bind, h]
  rfl

/-- A loop whose step first looks at the next token stays where the step does not go on. -/
theorem start_loop_at {next : α → Token → Parser (Option α)} {a : α} {t : Token} {more : List Token}
    (hr : r.tokens = t :: more) (h : next a t = pure none) :
    (loop (fun a => current >>= next a) a).start r = (.ok a, r) := by
  refine start_loop ?_
  rw [Run.start_bind_ok (start_current hr), h]
  rfl

theorem stays_loop {next : α → Token → Parser (Option α)} {a : α}
    (h : ∀ line, next a ⟨line, .blockEnd⟩ = pure none) :
    Stays (loop (fun a => current >>= next a) a) a := by
  rintro r ⟨line, more, hr⟩
  exact start_loop_at hr (h line)

theorem start_skip? {t : Token} {more : List Token} {kind : TokenKind} (hr : r.tokens = t :: more)
    (h : t.kind ≠ kind) : (skip? kind).start r = (.ok false, r) := by
  unfold skip?
  rw [Run.start_bind, start_current hr]
  simp only [if_neg h]
  rfl

theorem stays_members (inner : Parser Expr) (e : Expr) : Stays (members inner e) e :=
  stays_loop fun _ => rfl

theorem stays_applications (inner : Parser Expr) (e : Expr) : Stays (applications inner e) e :=
  stays_loop fun _ => rfl

theorem stays_texts (s : String) : Stays (texts s) s := stays_loop fun _ => rfl

/-- What an operand at the end of a tag is, joined operands are. -/
theorem start_joined {operand : Parser Expr} {combine? : TokenKind → Option (Expr → Expr → Expr)} {e : Expr}
    {t : Reading} (hoperand : operand.start r = (.ok e, t)) (ht : AtEnd t)
    (hcombine : combine? .blockEnd = none) : (joined operand combine?).start r = (.ok e, t) := by
  unfold joined
  rw [Run.start_bind, hoperand]
  refine stays_loop (fun line => ?_) t ht
  simp only [hcombine]

/-- A loop whose step first takes a token of a kind stays where there is none. -/
theorem start_loop_skip {step : α → Parser (Option α)} {kind : TokenKind} {t : Token} {more : List Token}
    (hr : r.tokens = t :: more) (h : t.kind ≠ kind) (a : α) :
    (loop (fun a => do if ← skip? kind then step a else pure none) a).start r = (.ok a, r) := by
  refine start_loop ?_
  rw [Run.start_bind, start_skip? hr h]
  rfl

theorem start_discard {m : Parser α} {a : α} {t : Reading} (h : m.start r = (.ok a, t)) :
    (discard m).start r = (.ok (), t) := by
  have hbind : discard m = m >>= fun _ => pure () := map_eq_pure_bind _ m
  rw [hbind, Run.start_bind_ok h]
  rfl

/-! ### The levels -/

/-- A literal comes next, and behind it, where the other reading is, the end of the tag. -/
structure Before (r t : Reading) (line : Nat) (s : String) : Prop where
  tokens : r.tokens = ⟨line, .string s⟩ :: t.tokens
  rest : t = { r with tokens := t.tokens }
  atEnd : AtEnd t

section
variable {t : Reading} {line : Nat} {s : String} (h : Before r t line s) (inner : Parser Expr)
include h

theorem start_advance : advance.start r = (.ok ⟨line, .string s⟩, t) := by
  obtain ⟨endLine, more, ht⟩ := h.atEnd
  have hafter : { r with tokens := r.tokens.tail } = t := by rw [h.tokens, h.rest]; rfl
  have hcheck : checkNext.start t = (.ok (), t) := by
    unfold checkNext
    rw [Run.start_bind, start_current ht]
    rfl
  unfold advance
  rw [Run.start_bind_ok (start_current h.tokens)]
  simp only [reduceCtorEq, if_false]
  rw [Run.start_bind, start_modify, hafter]
  simp only
  rw [Run.start_bind_ok hcheck]
  rfl

theorem start_primary : (primary inner).start r = (.ok (.literal (.text s)), t) := by
  unfold primary
  rw [Run.start_bind_ok (start_current h.tokens)]
  simp only
  rw [Run.start_bind_ok (start_discard (start_advance h)), Run.start_bind_ok (stays_texts s t h.atEnd)]
  rfl

theorem start_unary : (unary inner).start r = (.ok (.literal (.text s)), t) := by
  unfold unary
  rw [Run.start_bind_ok (start_loop_at h.tokens rfl), Run.start_bind_ok (start_primary h inner),
    Run.start_bind_ok (stays_members inner _ t h.atEnd)]
  exact stays_applications inner _ t h.atEnd

theorem start_powers : (powers inner).start r = (.ok (.literal (.text s)), t) :=
  start_joined (start_unary h inner) h.atEnd rfl

theorem start_products : (products inner).start r = (.ok (.literal (.text s)), t) :=
  start_joined (start_powers h inner) h.atEnd rfl

theorem start_concatenations : (concatenations inner).start r = (.ok (.literal (.text s)), t) := by
  obtain ⟨endLine, more, ht⟩ := h.atEnd
  unfold concatenations
  rw [Run.start_bind_ok (start_products h inner), Run.start_bind_ok (start_loop_skip ht (by simp) _)]
  rfl

theorem start_sums : (sums inner).start r = (.ok (.literal (.text s)), t) :=
  start_joined (start_concatenations h inner) h.atEnd rfl

theorem start_comparisons : (comparisons inner).start r = (.ok (.literal (.text s)), t) := by
  obtain ⟨endLine, more, ht⟩ := h.atEnd
  have hnone : comparison?.start t = (.ok none, t) := by
    unfold comparison?
    rw [Run.start_bind_ok (start_current ht)]
    rfl
  unfold comparisons
  rw [Run.start_bind_ok (start_sums h inner), Run.start_bind_ok (start_loop (a := []) ?_)]
  · rfl
  · rw [Run.start_bind_ok hnone]
    rfl

theorem start_negations : (negations inner).start r = (.ok (.literal (.text s)), t) := by
  unfold negations
  rw [Run.start_bind_ok (start_loop_skip h.tokens (by simp) _), Run.start_bind_ok (start_comparisons h inner)]
  rfl

theorem start_conjunctions : (conjunctions inner).start r = (.ok (.literal (.text s)), t) :=
  start_joined (start_negations h inner) h.atEnd rfl

theorem start_disjunctions : (disjunctions inner).start r = (.ok (.literal (.text s)), t) :=
  start_joined (start_conjunctions h inner) h.atEnd rfl

theorem start_conditionals : (conditionals inner).start r = (.ok (.literal (.text s)), t) := by
  obtain ⟨endLine, more, ht⟩ := h.atEnd
  unfold conditionals
  rw [Run.start_bind_ok (start_current h.tokens), Run.start_bind_ok (start_disjunctions h inner),
    Run.start_bind_ok (start_loop_skip ht (by simp) _)]
  rfl

theorem start_expression : expression.start r = (.ok (.literal (.text s)), t) := by
  unfold expression
  rw [Run.start_bind, Run.start_get]
  exact start_conditionals h _

/-- A directive whose tag holds a literal has the text of the literal for its markup, and is met with it. -/
theorem directiveTag_literal (tag : String) (tagLine : Nat) :
    (directiveTag tag tagLine).start r =
      (.ok (.directive tag s.toList), { t with met := t.met ++ [(tag, s.toList)] }) := by
  unfold directiveTag
  rw [Run.start_bind_ok (start_expression h)]
  simp only
  rw [Run.start_bind, start_modify]
  rfl

end

end Transclusion.Template.Parser

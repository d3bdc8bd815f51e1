import Transclusion.Proofs.Parsing

/-! What readers of expressions take.

Below the level of blocks a reader takes tokens from the front, never the
beginning of a block, and meets no directive. Every reader is put together from
looking at the next token and taking it where it is of a certain kind, so the
law of taking one token (`takesAt_advance`) is carried through binds and loops to
all of them. -/
namespace Transclusion.Template

open Inclusion

/-- The token ends the text, or tells why it cannot be read. -/
def Token.EndsText (t : Token) : Prop := t.kind = .finish ∨ ∃ fault, t.kind = .broken fault

namespace Reading

/-- The token that comes next; behind the last one the text ends. -/
def next (r : Reading) : Token := r.tokens.headD ⟨1, .finish⟩

/-- The reading behind the next token; the end of the text stays. -/
def behindNext (r : Reading) : Reading :=
  { r with tokens := if r.next.kind = .finish then r.tokens else r.tokens.tail }

/-- A certain token comes last, and the next one can be read. -/
structure Intact (last : Token) (r : Reading) : Prop where
  last : r.tokens.getLast? = some last
  next : ∀ fault, r.next.kind ≠ .broken fault

/-- Another reading is where this one comes to by taking tokens other than the beginning of a block; no directive
is met on the way, and a last token that ends the text or tells why it cannot be read is not taken. -/
structure Onward (r u : Reading) : Prop where
  met : u.met = r.met
  taken : ∃ taken, r.tokens = taken ++ u.tokens ∧ ∀ t ∈ taken, t.kind ≠ .blockBegin
  intact : ∀ last, last.EndsText → r.Intact last → u.Intact last

variable {r u : Reading}

theorem Onward.refl (r : Reading) : r.Onward r := ⟨rfl, ⟨[], rfl, by simp⟩, fun _ _ => id⟩

theorem Onward.trans {t : Reading} (h : r.Onward t) (h' : t.Onward u) : r.Onward u := by
  obtain ⟨taken, hr, htaken⟩ := h.taken
  obtain ⟨taken', ht, htaken'⟩ := h'.taken
  refine ⟨h'.met.trans h.met, ⟨taken ++ taken', by rw [hr, ht, List.append_assoc], fun t ht => ?_⟩,
    fun last hlast hr => h'.intact last hlast (h.intact last hlast hr)⟩
  exact (List.mem_append.1 ht).elim (htaken t) (htaken' t)

theorem Onward.suffix (h : r.Onward u) : u.tokens <:+ r.tokens := by
  obtain ⟨taken, hr, -⟩ := h.taken
  exact ⟨taken, hr.symm⟩

/-- Unless the text ends, the next token comes first and what is behind it after that. -/
theorem tokens_eq (h : r.next.kind ≠ .finish) : r.tokens = r.next :: r.behindNext.tokens := by
  cases htokens : r.tokens with
  | nil => exact absurd (by rw [next, htokens]; rfl) h
  | cons t more =>
    have hnext : r.next = t := by rw [next, htokens]; rfl
    rw [hnext] at h
    simp [behindNext, hnext, h, htokens]

/-- A last token that ends the text or cannot be read is not the one that is taken. -/
theorem Intact.behindNext {last : Token} (h : r.Intact last) (hlast : last.EndsText)
    (hnext : ∀ fault, r.behindNext.next.kind ≠ .broken fault) : r.behindNext.Intact last := by
  refine ⟨?_, hnext⟩
  by_cases hfinish : r.next.kind = .finish
  · have hsame : r.behindNext.tokens = r.tokens := by simp [Reading.behindNext, hfinish]
    rw [hsame]
    exact h.last
  · have htokens := h.last
    rw [tokens_eq hfinish] at htokens
    cases hbehind : r.behindNext.tokens with
    | nil =>
      rw [hbehind] at htokens
      obtain rfl : r.next = last := Option.some.inj htokens
      exact (hlast.elim hfinish fun ⟨fault, hfault⟩ => h.next fault hfault).elim
    | cons t more =>
      rw [hbehind] at htokens
      exact htokens

theorem onward_behindNext (h : r.next.kind ≠ .blockBegin)
    (hnext : ∀ fault, r.behindNext.next.kind ≠ .broken fault) : r.Onward r.behindNext := by
  refine ⟨rfl, ?_, fun last hlast hr => hr.behindNext hlast hnext⟩
  by_cases hfinish : r.next.kind = .finish
  · exact ⟨[], by simp [Reading.behindNext, hfinish], by simp⟩
  · exact ⟨[r.next], tokens_eq hfinish, by simpa using h⟩

end Reading

namespace Parser

variable {α β : Type} {m : Parser α} {t : Token} {kind : TokenKind}

/-! ### Steps -/

/-- Where the reader comes to a result, it has gone onward. -/
def Takes (m : Parser α) : Prop := Run.Reaches Reading.Onward m

/-- The same for the readings of which something holds. -/
def TakesIf (P : Reading → Prop) (m : Parser α) : Prop := ∀ r a u, P r → m.start r = (.ok a, u) → r.Onward u

/-- A certain token comes next. -/
abbrev TakesAt (t : Token) (m : Parser α) : Prop := TakesIf (fun r => r.next = t) m

theorem current_start (r : Reading) : current.start r = (.ok r.next, r) := by
  unfold current
  rw [Run.start_bind, Run.start_get]
  cases r with
  | mk size tokens met => cases tokens <;> rfl

theorem start_checkToken {r u : Reading} {a : Unit} (h : (checkToken t).start r = (.ok a, u)) :
    u = r ∧ ∀ fault, t.kind ≠ .broken fault := by
  unfold checkToken at h
  split at h
  · cases (Prod.mk.inj h).1
  · cases (Prod.mk.inj h).1
  · cases (Prod.mk.inj h).1
  · next hgrammar hdigits hnumeral =>
    refine ⟨(Prod.mk.inj h).2.symm, fun fault hfault => ?_⟩
    cases fault with
    | grammar fault => exact hgrammar fault hfault
    | digits count => exact hdigits count hfault
    | numeral first => exact hnumeral first hfault

theorem start_ahead {r u : Reading} (h : ahead.start r = (.ok kind, u)) :
    u = r ∧ (kind ≠ .finish → ∃ t t' more, r.tokens = t :: t' :: more ∧ t'.kind = kind) := by
  unfold ahead at h
  obtain ⟨s, s', hget, h⟩ := Run.start_bind_eq_ok h
  obtain ⟨rfl, rfl⟩ : r = s ∧ r = s' := by simpa using hget
  split at h
  · next t t' more htokens =>
    obtain ⟨⟨⟩, s, hcheck, h⟩ := Run.start_bind_eq_ok h
    obtain ⟨hkind, rfl⟩ := Prod.mk.inj h
    exact ⟨(start_checkToken hcheck).1, fun _ => ⟨t, t', more, htokens, Except.ok.inj hkind⟩⟩
  · obtain ⟨hkind, rfl⟩ := Prod.mk.inj h
    exact ⟨rfl, fun hfinish => absurd (Except.ok.inj hkind).symm hfinish⟩

/-- The next token is taken, and what comes behind it is checked. -/
theorem advance_start (r : Reading) :
    advance.start r = (checkToken r.behindNext.next >>= fun _ => pure r.next).start r.behindNext := by
  unfold advance checkNext
  rw [Run.start_bind_ok (current_start r), Run.start_bind, start_modify]
  simp only [bind_assoc]
  exact Run.start_bind_ok (current_start r.behindNext) _

theorem advance_eq_ok {r u : Reading} (h : advance.start r = (.ok t, u)) :
    t = r.next ∧ u = r.behindNext ∧ ∀ fault, r.behindNext.next.kind ≠ .broken fault := by
  rw [advance_start] at h
  obtain ⟨⟨⟩, s, hcheck, h⟩ := Run.start_bind_eq_ok h
  obtain ⟨rfl, hnext⟩ := start_checkToken hcheck
  obtain ⟨ht, rfl⟩ := Prod.mk.inj h
  exact ⟨(Except.ok.inj ht).symm, rfl, hnext⟩

theorem discard_bind (m : Parser α) (f : Unit → Parser β) : discard m >>= f = m >>= fun _ => f () := by
  have hbind : discard m = m >>= fun _ => pure () := map_eq_pure_bind _ m
  rw [hbind, bind_assoc]
  rfl

theorem discard_eq_ok {r u : Reading} {a : Unit} (h : (discard m).start r = (.ok a, u)) :
    ∃ b, m.start r = (.ok b, u) := by
  have hbind : discard m = m >>= fun _ => pure () := map_eq_pure_bind _ m
  rw [hbind] at h
  obtain ⟨b, s, hs, h⟩ := Run.start_bind_eq_ok h
  obtain ⟨-, rfl⟩ := Prod.mk.inj h
  exact ⟨b, hs⟩

namespace Takes

protected theorem pure (a : α) : Takes (pure a : Parser α) := fun r b u h => by
  obtain ⟨-, rfl⟩ := Prod.mk.inj h
  exact .refl r

protected theorem throw (fault : Fault) : Takes (throw fault : Parser α) := fun _ _ _ h => by
  cases (Prod.mk.inj h).1

theorem fail (line : Nat) (fault : SyntaxFault) : Takes (Parser.fail line fault : Parser α) := .throw _

theorem bind (hm : Takes m) {f : α → Parser β} (hf : ∀ a, Takes (f a)) : Takes (m >>= f) := by
  intro r b u h
  obtain ⟨a, s, hs, hu⟩ := Run.start_bind_eq_ok h
  exact (hm r a s hs).trans (hf a s b u hu)

theorem discard (hm : Takes m) : Takes (discard m) := by
  intro r a u hu
  obtain ⟨b, hb⟩ := discard_eq_ok hu
  exact hm r b u hb

/-- A reader that looks at the next token first. -/
theorem look {f : Token → Parser α} (h : ∀ t, TakesAt t (f t)) : Takes (current >>= f) := by
  intro r a u hu
  rw [Run.start_bind_ok (current_start r)] at hu
  exact h r.next r a u rfl hu

protected theorem current : Takes current := fun r a u hu => by
  rw [current_start] at hu
  obtain ⟨-, rfl⟩ := Prod.mk.inj hu
  exact .refl r

theorem here (hm : Takes m) {P : Reading → Prop} : TakesIf P m := fun r a u _ => hm r a u

/-- A reader that looks at all that is left first. -/
theorem get {f : Reading → Parser α} (h : ∀ r, Takes (f r)) : Takes (MonadStateOf.get >>= f) :=
  fun r a u hu => h r r a u hu

theorem ite {c : Prop} [Decidable c] {n : Parser α} (hm : Takes m) (hn : Takes n) : Takes (if c then m else n) := by
  split
  · exact hm
  · exact hn

/-- A reader that goes on in one way, with or without something before it. -/
theorem join {c : Prop} [Decidable c] {m : Parser Unit} {f : Unit → Parser α} (hm : Takes m) (hf : Takes (f ())) :
    Takes (if c then m >>= f else f ()) := .ite (hm.bind fun _ => hf) hf

theorem either {c : Prop} [Decidable c] {n : Parser α} {f : α → Parser β} (hm : Takes m) (hn : Takes n)
    (hf : ∀ a, Takes (f a)) : Takes (if c then m >>= f else n >>= f) := .ite (hm.bind hf) (hn.bind hf)

end Takes

namespace TakesIf

variable {P : Reading → Prop}

theorem bind (hm : TakesIf P m) {f : α → Parser β} (hf : ∀ a, Takes (f a)) : TakesIf P (m >>= f) := by
  intro r b u hr h
  obtain ⟨a, s, hs, hu⟩ := Run.start_bind_eq_ok h
  exact (hm r a s hr hs).trans (hf a s b u hu)

theorem ite {c : Prop} [Decidable c] {n : Parser α} (hm : c → TakesIf P m) (hn : TakesIf P n) :
    TakesIf P (if c then m else n) := by
  split
  · next hc => exact hm hc
  · exact hn

/-- A reader behind a check that takes nothing. -/
theorem check {allowed : Bool} {line : Nat} {fault : SyntaxFault} {f : Unit → Parser α} (hf : TakesIf P (f ())) :
    TakesIf P ((if allowed then pure () else fail line fault) >>= f) := by
  cases allowed
  · intro r a u _ h
    obtain ⟨_, _, hfail, -⟩ := Run.start_bind_eq_ok h
    cases (Prod.mk.inj hfail).1
  · exact hf

end TakesIf

/-- The next token can be taken unless it begins a block. -/
theorem takesAt_advance (h : t.kind ≠ .blockBegin) : TakesAt t advance := by
  rintro r a u rfl hu
  obtain ⟨-, rfl, hnext⟩ := advance_eq_ok hu
  exact Reading.onward_behindNext h hnext

/-- Behind the next token, unless it begins a block. -/
theorem TakesIf.step (h : t.kind ≠ .blockBegin) {f : Unit → Parser α} (hf : Takes (f ())) :
    TakesAt t (discard advance >>= f) := by
  rw [discard_bind]
  exact (takesAt_advance h).bind fun _ => hf

/-- A certain token comes next, and one of a kind behind it. -/
def Both (t : Token) (kind : TokenKind) (r : Reading) : Prop := ∃ t' more, r.tokens = t :: t' :: more ∧ t'.kind = kind

/-- A reader that asks whether the token behind the next one is of a kind. -/
theorem TakesIf.ahead (hfinish : kind ≠ .finish) {n : Parser α} (hm : TakesIf (Both t kind) m) (hn : TakesAt t n) :
    TakesAt t (do if (← Parser.ahead) = kind then m else n) := by
  intro r a u hr hu
  obtain ⟨k, s, hs, hk⟩ := Run.start_bind_eq_ok hu
  obtain ⟨rfl, hahead⟩ := start_ahead hs
  split at hk
  · next heq =>
    obtain ⟨t', t'', more, htokens, hkind⟩ := hahead (heq ▸ hfinish)
    have hnext : t' = t := by rw [← hr, Reading.next, htokens]; rfl
    exact hm _ a u ⟨t'', more, hnext ▸ htokens, hkind.trans heq⟩ hk
  · exact hn _ a u hr hk

/-- Behind the next two tokens, neither of which begins a block. -/
theorem TakesIf.pair (h : t.kind ≠ .blockBegin) (hkind : kind ≠ .blockBegin) {f : Unit → Parser α}
    (hf : Takes (f ())) : TakesIf (Both t kind) (discard advance >>= fun _ => discard advance >>= f) := by
  rintro r a u ⟨t', more, htokens, ht'⟩ hu
  have hnext : r.next = t := by rw [Reading.next, htokens]; rfl
  rw [discard_bind] at hu
  obtain ⟨t'', s, hs, hs'⟩ := Run.start_bind_eq_ok hu
  obtain ⟨-, rfl, hchecked⟩ := advance_eq_ok hs
  have hbehind : r.behindNext.next.kind ≠ .blockBegin := by
    by_cases hfinish : t.kind = .finish
    · simp [Reading.behindNext, Reading.next, htokens, hfinish]
    · simpa [Reading.behindNext, Reading.next, htokens, hfinish, ht'] using hkind
  exact (Reading.onward_behindNext (hnext ▸ h) hchecked).trans (TakesIf.step hbehind hf _ a u rfl hs')

theorem takes_expect (hkind : kind ≠ .blockBegin) (description : String) : Takes (expect kind description) := by
  unfold expect
  refine .look fun t => .ite (fun h => takesAt_advance (h ▸ hkind)) (Takes.here (.ite (.fail _ _) (.fail _ _)))

theorem takes_expectSymbol (s : String) : Takes (expectSymbol s) := (takes_expect (by simp) s).discard

theorem takes_expectName : Takes expectName := by
  unfold expectName
  refine .look fun t => ?_
  split
  · next h => exact .step (by simp [h]) (.pure _)
  · exact Takes.here (.fail _ _)
  · exact Takes.here (.fail _ _)

theorem takes_skip? (hkind : kind ≠ .blockBegin) : Takes (skip? kind) := by
  unfold skip?
  exact .look fun t => .ite (fun h => .step (h ▸ hkind) (.pure _)) (Takes.here (.pure _))

theorem takes_loop {step : α → Parser (Option α)} (h : ∀ a, Takes (step a)) (a : α) : Takes (loop step a) := by
  have hiterate : ∀ fuel a, Takes (iterate step fuel a) := by
    intro fuel
    induction fuel with
    | zero => exact fun a => .pure a
    | succ fuel ih =>
      intro a
      unfold iterate
      refine (h a).bind fun b => ?_
      split
      · exact ih _
      · exact .pure _
  exact .get fun r => hiterate _ a

theorem start_meetsName {names : List String} {r u : Reading} {b : Bool}
    (h : (meetsName names).start r = (.ok b, u)) : u = r ∧ (b = true → ∃ n, r.next.kind = .name n) := by
  unfold meetsName at h
  rw [Run.start_bind_ok (current_start r)] at h
  split at h
  · next n hn =>
    obtain ⟨-, rfl⟩ := Prod.mk.inj h
    exact ⟨rfl, fun _ => ⟨n, hn⟩⟩
  · obtain ⟨hb, rfl⟩ := Prod.mk.inj h
    exact ⟨rfl, fun htrue => by simp [htrue] at hb⟩

/-! ### Expressions -/

theorem takes_texts (first : String) : Takes (texts first) := by
  unfold texts
  refine takes_loop (fun s => .look fun t => ?_) first
  split
  · next h => exact .step (by simp [h]) (.pure _)
  · exact Takes.here (.pure _)

theorem takes_dottedName (first : String) : Takes (dottedName first) := by
  unfold dottedName
  refine takes_loop (fun s => (takes_skip? (by simp)).bind fun _ => .ite ?_ (.pure _)) first
  exact takes_expectName.bind fun _ => .pure _

theorem takes_itemsUpTo {item : Parser α} (hitem : Takes item) (close : String) : Takes (itemsUpTo item close) := by
  unfold itemsUpTo
  refine (takes_loop (fun items => ?_) []).bind fun items => (takes_expectSymbol close).bind fun _ => .pure _
  refine .look fun t => Takes.here (.ite (.pure _) (.join (takes_expectSymbol ",") ?_))
  exact .look fun t => Takes.here (.ite (.pure _) (hitem.bind fun _ => .pure _))

theorem takes_atTupleEnd : Takes atTupleEnd := by
  unfold atTupleEnd
  refine .look fun t => Takes.here ?_
  split <;> exact .pure _

theorem takes_sequence {item : Parser α} (hitem : Takes item) : Takes (sequence item) := by
  unfold sequence
  refine (takes_loop ?_ _).bind fun _ => .pure _
  rintro ⟨items, isTuple, goesOn⟩
  refine .ite (.pure _) (.join (takes_expectSymbol ",") (takes_atTupleEnd.bind fun _ => ?_))
  exact .ite (.pure _) (hitem.bind fun _ => .look fun t => Takes.here (.ite (.pure _) (.pure _)))

theorem takes_tupleOf {item : Parser Expr} (hitem : Takes item) (mayBeEmpty : Bool) :
    Takes (tupleOf item mayBeEmpty) := by
  unfold tupleOf
  refine (takes_sequence hitem).bind fun x => ?_
  split
  · exact .pure _
  · exact .pure _
  · exact .ite (.pure _) (.look fun t => Takes.here (.fail _ _))

section
variable {inner : Parser Expr} (hinner : Takes inner)
include hinner

theorem takes_mapping : Takes (mapping inner) := by
  unfold mapping
  refine (takes_itemsUpTo ?_ _).bind fun _ => .pure _
  exact hinner.bind fun _ => (takes_expectSymbol ":").bind fun _ => hinner.bind fun _ => .pure _

theorem takes_primary : Takes (primary inner) := by
  unfold primary
  refine .look fun t => ?_
  split
  · next h =>
    refine .step (by simp [h]) ?_
    split <;> exact .pure _
  · next h => exact .step (by simp [h]) ((takes_texts _).bind fun _ => .pure _)
  · next h => exact .step (by simp [h]) (.pure _)
  · next h => exact .step (by simp [h]) (.pure _)
  · next h =>
    refine .step (by simp [h]) ((takes_tupleOf hinner true).bind fun e => ?_)
    exact (takes_expectSymbol ")").bind fun _ => .pure e
  · next h => exact .step (by simp [h]) ((takes_itemsUpTo hinner "]").bind fun _ => .pure _)
  · next h => exact .step (by simp [h]) (takes_mapping hinner)
  · exact Takes.here (.fail _ _)

theorem takes_sliceBound (ends : List String) : Takes (sliceBound inner ends) := by
  unfold sliceBound
  refine .look fun t => Takes.here ?_
  split
  · exact .ite (.pure _) hinner
  · exact hinner

theorem takes_subscript (e : Expr) : Takes (subscript inner e) := by
  unfold subscript
  refine .look fun t => Takes.here (.either (.pure _) hinner fun first => (takes_skip? (by simp)).bind fun _ => ?_)
  refine .ite ((takes_sliceBound hinner _).bind fun last => (takes_skip? (by simp)).bind fun _ => ?_) (.pure _)
  exact .either (takes_sliceBound hinner _) (.pure _) fun step => .pure _

theorem takes_subscripted (e : Expr) : Takes (subscripted inner e) := by
  unfold subscripted
  refine (takes_loop (fun subscripts => ?_) []).bind fun _ => (takes_expectSymbol "]").bind fun _ => ?_
  · refine .look fun t => Takes.here (.ite (.pure _) (.join (takes_expectSymbol ",") ?_))
    exact (takes_subscript hinner e).bind fun _ => .pure _
  · split <;> exact .pure _

theorem takes_argument (line : Nat) (a : Arguments) : Takes (argument inner line a) := by
  unfold argument
  refine .look fun t => ?_
  split
  · next h => exact .check (.step (by simp [h]) (hinner.bind fun _ => .pure _))
  · next h => exact .check (.step (by simp [h]) (hinner.bind fun _ => .pure _))
  · next h =>
    refine .ahead (by simp) (.check (.pair (by simp [h]) (by simp) (hinner.bind fun _ => .pure _))) ?_
    exact .check (Takes.here (hinner.bind fun _ => .pure _))
  · exact .check (Takes.here (hinner.bind fun _ => .pure _))

theorem takes_arguments : Takes (arguments inner) := by
  unfold arguments
  refine (takes_expect (by simp) _).bind fun opening => ?_
  refine (takes_loop ?_ _).bind fun _ => (takes_expectSymbol ")").bind fun _ => .pure _
  rintro ⟨a, isFirst⟩
  refine .look fun t => Takes.here (.ite (.pure _) (.join (takes_expectSymbol ",") ?_))
  exact .look fun t => Takes.here (.ite (.pure _) ((takes_argument hinner _ a).bind fun _ => .pure _))

theorem takes_argumentsIfAny : Takes (argumentsIfAny inner) := by
  unfold argumentsIfAny
  exact .look fun t => Takes.here (.ite (takes_arguments hinner) (.pure _))

theorem takes_members (e : Expr) : Takes (members inner e) := by
  unfold members
  refine takes_loop (fun e => .look fun t => ?_) e
  split
  · next h =>
    refine .step (by simp [h]) fun r a u hu => ?_
    obtain ⟨t, s, hs, hu⟩ := Run.start_bind_eq_ok hu
    obtain ⟨rfl, rfl, hnext⟩ := advance_eq_ok hs
    -- What stands behind the point is known only when it has been taken.
    split at hu
    · next h => exact (Reading.onward_behindNext (by simp [h]) hnext).trans (Takes.pure _ _ _ _ hu)
    · next h => exact (Reading.onward_behindNext (by simp [h]) hnext).trans (Takes.pure _ _ _ _ hu)
    · exact absurd (Prod.mk.inj hu).1 (by simp)
  · next h => exact .step (by simp [h]) ((takes_subscripted hinner e).bind fun _ => .pure _)
  · exact Takes.here ((takes_arguments hinner).bind fun _ => .pure _)
  · exact Takes.here (.pure _)

theorem takes_filterOf (e : Expr) : Takes (filterOf inner e) := by
  unfold filterOf
  refine takes_expectName.bind fun _ => (takes_dottedName _).bind fun _ => ?_
  exact (takes_argumentsIfAny hinner).bind fun _ => .pure _

theorem takes_filters (e : Expr) : Takes (filters inner e) := by
  unfold filters
  refine takes_loop (fun e => (takes_skip? (by simp)).bind fun _ => .ite ?_ (.pure _)) e
  exact (takes_filterOf hinner e).bind fun _ => .pure _

theorem takes_testArguments : Takes (testArguments inner) := by
  have hone : Takes (do pure [(Passing.positional, ← members inner (← primary inner))]) :=
    (takes_primary hinner).bind fun e => (takes_members hinner e).bind fun _ => .pure _
  unfold testArguments
  refine .look fun t => Takes.here ?_
  split
  · exact takes_arguments hinner
  · exact .ite (.pure _) (.ite (.fail _ _) hone)
  all_goals first
    | exact hone
    | exact .pure _

theorem takes_applications (e : Expr) : Takes (applications inner e) := by
  unfold applications
  refine takes_loop (fun e => .look fun t => ?_) e
  split
  · next h => exact .step (by simp [h]) ((takes_filterOf hinner e).bind fun _ => .pure _)
  · next h =>
    refine .step (by simp [h]) ((takes_skip? (by simp)).bind fun _ => takes_expectName.bind fun _ => ?_)
    exact (takes_dottedName _).bind fun _ => (takes_testArguments hinner).bind fun _ => .pure _
  · exact Takes.here ((takes_arguments hinner).bind fun _ => .pure _)
  · exact Takes.here (.pure _)

omit hinner in
theorem takes_joined {operand : Parser Expr} (hoperand : Takes operand)
    {combine? : TokenKind → Option (Expr → Expr → Expr)} (hcombine : combine? .blockBegin = none) :
    Takes (joined operand combine?) := by
  unfold joined
  refine hoperand.bind fun e => takes_loop (fun e => .look fun t => ?_) e
  split
  · next h =>
    refine .step (fun hbegin => ?_) (hoperand.bind fun _ => .pure _)
    rw [hbegin, hcombine] at h
    cases h
  · exact Takes.here (.pure _)

theorem takes_unary : Takes (unary inner) := by
  unfold unary
  refine (takes_loop (fun signs => .look fun t => ?_) []).bind fun signs => ?_
  · split
    · next h => exact .step (by simp [h]) (.pure _)
    · next h => exact .step (by simp [h]) (.pure _)
    · exact Takes.here (.pure _)
  · exact (takes_primary hinner).bind fun e => (takes_members hinner e).bind fun _ => takes_applications hinner _

theorem takes_powers : Takes (powers inner) := takes_joined (takes_unary hinner) rfl

theorem takes_products : Takes (products inner) := takes_joined (takes_powers hinner) rfl

theorem takes_concatenations : Takes (concatenations inner) := by
  unfold concatenations
  refine (takes_products hinner).bind fun e => (takes_loop (fun items => ?_) [e]).bind fun items => ?_
  · refine (takes_skip? (by simp)).bind fun _ => .ite ?_ (.pure _)
    exact (takes_products hinner).bind fun _ => .pure _
  · split <;> exact .pure _

theorem takes_sums : Takes (sums inner) := takes_joined (takes_concatenations hinner) rfl

omit hinner in
theorem takes_comparison? : Takes comparison? := by
  unfold comparison?
  refine .look fun t => ?_
  split
  all_goals first
    | next h => exact .step (by simp [h]) (.pure _)
    | next h => exact .ahead (by simp) (.pair (by simp [h]) (by simp) (.pure _)) (Takes.here (.pure _))
    | exact Takes.here (.pure _)

theorem takes_comparisons : Takes (comparisons inner) := by
  unfold comparisons
  refine (takes_sums hinner).bind fun first => (takes_loop (fun others => ?_) []).bind fun _ => .pure _
  refine takes_comparison?.bind fun c => ?_
  split
  · exact (takes_sums hinner).bind fun _ => .pure _
  · exact .pure _

theorem takes_negations : Takes (negations inner) := by
  unfold negations
  refine (takes_loop (fun n => ?_) 0).bind fun count => (takes_comparisons hinner).bind fun _ => .pure _
  exact (takes_skip? (by simp)).bind fun _ => .ite (.pure _) (.pure _)

theorem takes_conjunctions : Takes (conjunctions inner) := takes_joined (takes_negations hinner) rfl

theorem takes_disjunctions : Takes (disjunctions inner) := takes_joined (takes_conjunctions hinner) rfl

theorem takes_conditionals : Takes (conditionals inner) := by
  unfold conditionals
  refine .look fun start => Takes.here ((takes_disjunctions hinner).bind fun e => ?_)
  refine (takes_loop ?_ _).bind fun _ => .pure _
  rintro ⟨e, line⟩
  refine (takes_skip? (by simp)).bind fun _ => .ite ?_ (.pure _)
  refine (takes_disjunctions hinner).bind fun test => (takes_skip? (by simp)).bind fun _ => ?_
  exact .either hinner (.pure _) fun otherwise => .look fun t => Takes.here (.pure _)

end

theorem takes_expressionTo (depth : Nat) : Takes (expressionTo depth) := by
  induction depth with
  | zero => exact .look fun t => Takes.here (.fail _ _)
  | succ depth ih => exact takes_conditionals ih

theorem takes_expression : Takes expression := .get fun _ => takes_expressionTo _

theorem takes_tuple : Takes tuple := takes_tupleOf takes_expression false

theorem takes_plainTuple : Takes plainTuple := takes_tupleOf (takes_disjunctions takes_expression) false

/-! ### Targets and words -/

theorem takes_expectFreeName : Takes expectFreeName := by
  unfold expectFreeName
  exact takes_expectName.bind fun x => .join (.fail _ _) (.pure _)

theorem takes_oneTarget (mayBeAttribute : Bool) : Takes (oneTarget mayBeAttribute) := by
  unfold oneTarget
  refine .look fun t => Takes.here ((takes_primary takes_expression).bind fun e => ?_)
  split
  · refine .look fun t' => .ite (fun h => ?_) (Takes.here (.pure _))
    simp only [Bool.and_eq_true, decide_eq_true_eq] at h
    exact .step (by simp [h.2]) (takes_expectName.bind fun _ => .pure _)
  · split <;> exact .pure _

theorem takes_target (mayBeAttribute : Bool) : Takes (target mayBeAttribute) := by
  unfold target
  refine .look fun t => Takes.here ((takes_sequence (takes_oneTarget mayBeAttribute)).bind fun x => ?_)
  split
  split
  · exact .pure _
  · exact .fail _ _
  · exact .look fun t => Takes.here (.fail _ _)
  · split
    · exact .pure _
    · exact .fail _ _

theorem takes_skipNames? (first : List String) (second : String) : Takes (skipNames? first second) := by
  unfold skipNames?
  intro r a u hu
  obtain ⟨b, s, hs, hb⟩ := Run.start_bind_eq_ok hu
  obtain ⟨rfl, hname⟩ := start_meetsName hs
  split at hb
  · next htrue =>
    obtain ⟨n, hn⟩ := hname htrue
    refine TakesIf.ahead (by simp) ?_ (Takes.here (.pure _)) _ a u rfl hb
    exact .pair (by simp [hn]) (by simp) (.pure _)
  · exact Takes.pure _ _ _ _ hb

theorem takes_contextWords : Takes contextWords := takes_skipNames? _ _

theorem takes_loadTag : Takes loadTag := by
  unfold loadTag
  refine takes_expression.bind fun e => (takes_skipNames? _ _).bind fun _ => ?_
  exact takes_contextWords.discard.bind fun _ => .pure _

theorem takes_importTag : Takes importTag := by
  unfold importTag
  refine takes_expression.bind fun e => (takes_expect (by simp) _).discard.bind fun _ => ?_
  exact takes_expectFreeName.discard.bind fun _ => takes_contextWords.discard.bind fun _ => .pure _

theorem takes_importNamesTag : Takes importNamesTag := by
  unfold importNamesTag
  refine takes_expression.bind fun e => (takes_expect (by simp) _).discard.bind fun _ => ?_
  refine (takes_loop ?_ _).discard.bind fun _ => .pure _
  rintro ⟨isFirst, goesOn⟩
  refine .ite (.pure _) (.join (takes_expectSymbol ",") (.look fun t => Takes.here ?_))
  split
  · refine takes_contextWords.bind fun _ => .ite (.pure _) (takes_expectFreeName.bind fun _ => ?_)
    refine .join (.throw _) ((takes_skip? (by simp)).bind fun _ => .join takes_expectFreeName.discard ?_)
    exact takes_contextWords.bind fun _ => .ite (.pure _) (.look fun t => Takes.here (.pure _))
  · exact takes_expectName.discard.bind fun _ => .pure _

theorem takes_parameters : Takes parameters := by
  unfold parameters
  refine (takes_expectSymbol "(").bind fun _ => (takes_loop ?_ _).bind fun x => ?_
  · rintro ⟨names, defaults⟩
    refine .look fun t => Takes.here (.ite (.pure _) (.join (takes_expectSymbol ",") ?_))
    refine takes_expectFreeName.bind fun _ => (takes_skip? (by simp)).bind fun _ => .ite ?_ ?_
    · exact takes_expression.bind fun _ => .pure _
    · exact .ite (.pure _) (.look fun t => Takes.here (.fail _ _))
  · exact (takes_expectSymbol ")").bind fun _ => .pure _

theorem takes_printTag : Takes printTag := by
  unfold printTag
  refine (takes_loop (fun items => ?_) []).bind fun _ => .pure _
  refine .look fun t => Takes.here (.ite (.pure _) (.join (takes_expectSymbol ",") ?_))
  exact takes_expression.bind fun _ => .pure _

end Parser
end Transclusion.Template

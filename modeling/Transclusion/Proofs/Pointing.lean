import Transclusion.Proofs.Positions
import Transclusion.Proofs.Taking

/-! Where a fault of a text points.

A reading of a template that stops tells the line of one of the template's tokens
(`parse_line`), and so, where it is a text that is read, a line of this text
(`parse_tokenize_line`). A fault is told of a token only that the reader has before
it or has had there. So the tokens to come stay on lines for which something holds
(`Reading.On`), and the line of a token that is kept is one of them (`Tells`). Taking
one token is the step (`tells_advance`); the readers are put together from it by binds
and loops. -/
namespace Transclusion

/-- The line that a fault of a text tells. -/
def Fault.line? : Fault → Option Nat
  | .syntaxError _ line | .nameError _ line => some line
  | _ => none

namespace Template

open Inclusion

namespace Reading
variable {L : Nat → Prop} {r : Reading}

/-- Something holds of the lines of the tokens to come, the last of which ends the text or tells why it cannot be
read; the next one can be read. -/
structure On (L : Nat → Prop) (r : Reading) : Prop where
  lines : ∀ t ∈ r.tokens, L t.line
  intact : ∃ last, last.EndsText ∧ r.Intact last

theorem next_mem (h : r.tokens ≠ []) : r.next ∈ r.tokens := by
  cases htokens : r.tokens with
  | nil => exact absurd htokens h
  | cons t more =>
    rw [next, htokens]
    exact List.mem_cons_self ..

theorem mem_of_mem_behindNext {t : Token} (h : t ∈ r.behindNext.tokens) : t ∈ r.tokens := by
  unfold behindNext at h
  split at h
  · exact h
  · exact List.mem_of_mem_tail h

theorem On.next (h : r.On L) : L r.next.line := by
  obtain ⟨last, -, hintact⟩ := h.intact
  exact h.lines _ (next_mem (List.ne_nil_of_mem (List.mem_of_getLast? hintact.last)))

theorem On.behindNext (h : r.On L) (hnext : ∀ fault, r.behindNext.next.kind ≠ .broken fault) : r.behindNext.On L := by
  obtain ⟨last, hlast, hintact⟩ := h.intact
  exact ⟨fun t ht => h.lines t (mem_of_mem_behindNext ht), last, hlast, hintact.behindNext hlast hnext⟩

end Reading

namespace Parser

variable {α β : Type} {L : Nat → Prop} {Q : α → Prop} {R : β → Prop} {m : Parser α} {kind : TokenKind}

/-! ### Steps -/

/-- Where the tokens to come are on certain lines they still are behind the reader; what it comes to has a property,
and a fault at which it stops is on one of the lines. -/
def Tells (L : Nat → Prop) (Q : α → Prop) (m : Parser α) : Prop :=
  ∀ r, r.On L → (∀ fault u, m.start r = (.error fault, u) → ∀ line ∈ fault.line?, L line) ∧
    ∀ a u, m.start r = (.ok a, u) → u.On L ∧ Q a

/-- The same of a reader of whose result nothing need be known. -/
abbrev Points (L : Nat → Prop) (m : Parser α) : Prop := Tells L (fun _ => True) m

namespace Tells

protected theorem pure {a : α} (h : Q a) : Tells L Q (pure a : Parser α) := by
  refine fun r hr => ⟨fun fault u hu => ?_, fun b u hu => ?_⟩
  · cases (Prod.mk.inj hu).1
  · obtain ⟨hb, rfl⟩ := Prod.mk.inj hu
    exact ⟨hr, Except.ok.inj hb ▸ h⟩

protected theorem throw {fault : Fault} (h : ∀ line ∈ fault.line?, L line) : Tells L Q (throw fault : Parser α) := by
  refine fun r hr => ⟨fun fault' u hu => ?_, fun b u hu => ?_⟩
  · exact Except.error.inj (Prod.mk.inj hu).1 ▸ h
  · cases (Prod.mk.inj hu).1

protected theorem fail {line : Nat} (h : L line) (fault : SyntaxFault) :
    Tells L Q (Parser.fail line fault : Parser α) :=
  .throw fun _ hline => Option.some.inj hline ▸ h

protected theorem bind (hm : Tells L Q m) {f : α → Parser β} (hf : ∀ a, Q a → Tells L R (f a)) :
    Tells L R (m >>= f) := by
  intro r hr
  rw [Run.start_bind]
  obtain ⟨hfault, hresult⟩ := hm r hr
  split
  · next a u hu =>
    obtain ⟨hon, ha⟩ := hresult a u hu
    exact hf a ha u hon
  · next fault u hu =>
    refine ⟨fun fault' u' h => ?_, fun _ _ h => nomatch (Prod.mk.inj h).1⟩
    exact Except.error.inj (Prod.mk.inj h).1 ▸ hfault fault u hu

protected theorem ite {c : Prop} [Decidable c] {n : Parser α} (hm : Tells L Q m) (hn : Tells L Q n) :
    Tells L Q (if c then m else n) := by
  split
  · exact hm
  · exact hn

/-- A reader that looks at the next token first. -/
theorem look {f : Token → Parser α} (h : ∀ t, L t.line → Tells L Q (f t)) : Tells L Q (current >>= f) := by
  intro r hr
  rw [Run.start_bind_ok (current_start r)]
  exact h r.next hr.next r hr

end Tells

theorem Points.bind (hm : Points L m) {f : α → Parser β} (hf : ∀ a, Tells L R (f a)) : Tells L R (m >>= f) :=
  Tells.bind hm fun a _ => hf a

namespace Tells

protected theorem discard (hm : Tells L Q m) : Points L (discard m) := by
  have hbind : discard m = m >>= fun _ => pure () := map_eq_pure_bind _ m
  rw [hbind]
  exact hm.bind fun _ _ => .pure trivial

/-- A reader that looks at all that is left first. -/
protected theorem get {f : Reading → Parser α} (h : ∀ r, r.On L → Tells L Q (f r)) :
    Tells L Q (MonadStateOf.get >>= f) :=
  fun r hr => h r hr r hr

/-- A reader that goes on in one way, with or without something before it. -/
theorem join {c : Prop} [Decidable c] {m : Parser Unit} {f : Unit → Parser α} (hm : Points L m)
    (hf : Tells L Q (f ())) : Tells L Q (if c then m >>= f else f ()) := .ite (hm.bind fun _ => hf) hf

theorem either {c : Prop} [Decidable c] {n : Parser α} {f : α → Parser β} (hm : Points L m) (hn : Points L n)
    (hf : ∀ a, Tells L R (f a)) : Tells L R (if c then m >>= f else n >>= f) := .ite (hm.bind hf) (hn.bind hf)

/-- A reader that goes on in one way with what something before it gives, or with something else. -/
theorem optional {γ : Type} {c : Prop} [Decidable c] {f : β → Parser γ} {g : α → β} {b : β} {S : γ → Prop}
    (hm : Points L m) (hf : ∀ b, Tells L S (f b)) :
    Tells L S (if c then m >>= fun a => pure (g a) >>= f else pure b >>= f) :=
  .ite (hm.bind fun _ => Points.bind (.pure trivial) hf) (Points.bind (.pure trivial) hf)

/-- A reader behind a check that tells a line. -/
theorem check {allowed : Bool} {line : Nat} {fault : SyntaxFault} {f : Unit → Parser α} (hline : L line)
    (hf : Tells L Q (f ())) : Tells L Q ((if allowed then pure () else Parser.fail line fault) >>= f) :=
  Points.bind (.ite (.pure trivial) (.fail hline fault)) fun _ => hf

end Tells

theorem points_checkToken {t : Token} (h : L t.line) : Points L (checkToken t) := by
  unfold checkToken
  split
  · exact .fail h _
  · exact .throw fun _ hline => nomatch hline
  · exact .throw fun _ hline => nomatch hline
  · exact .pure trivial

/-- A fault is told of a token only that cannot be read, with its own line. -/
theorem start_checkToken_error {t : Token} {r u : Reading} {fault : Fault}
    (h : (checkToken t).start r = (.error fault, u)) :
    (∃ broken, t.kind = .broken broken) ∧ ∀ line ∈ fault.line?, line = t.line := by
  unfold checkToken at h
  split at h
  · next reason hkind =>
    obtain rfl : Fault.syntaxError reason t.line = fault := Except.error.inj (Prod.mk.inj h).1
    exact ⟨⟨_, hkind⟩, fun line hline => (Option.some.inj hline).symm⟩
  · next count hkind =>
    obtain rfl : Fault.digitLimit (some count) = fault := Except.error.inj (Prod.mk.inj h).1
    exact ⟨⟨_, hkind⟩, fun line hline => nomatch hline⟩
  · next first hkind =>
    obtain rfl : Fault.numeral first = fault := Except.error.inj (Prod.mk.inj h).1
    exact ⟨⟨_, hkind⟩, fun line hline => nomatch hline⟩
  · cases (Prod.mk.inj h).1

/-- The next token is taken, and kept with its line; what comes behind it is told of if it cannot be read. -/
theorem tells_advance : Tells L (fun t => L t.line) advance := by
  intro r hr
  rw [advance_start]
  refine ⟨fun fault u h line hline => ?_, fun t u h => ?_⟩
  · rw [Run.start_bind] at h
    split at h
    · cases (Prod.mk.inj h).1
    · next fault' u' hcheck =>
      obtain ⟨⟨broken, hbroken⟩, htold⟩ := start_checkToken_error hcheck
      rw [← Except.error.inj (Prod.mk.inj h).1] at hline
      rw [htold line hline]
      -- Behind the last token the text ends, so what cannot be read is among the tokens.
      have hne : r.behindNext.tokens ≠ [] := fun hnil => by
        rw [Reading.next, hnil] at hbroken
        cases hbroken
      exact hr.lines _ (Reading.mem_of_mem_behindNext (Reading.next_mem hne))
  · rw [← advance_start] at h
    obtain ⟨rfl, rfl, hnext⟩ := advance_eq_ok h
    exact ⟨hr.behindNext hnext, hr.next⟩

theorem points_advance : Points L (discard advance) := .discard tells_advance

theorem points_ahead : Points L ahead := by
  unfold ahead
  refine .get fun r hr => ?_
  split
  · next t' t more htokens =>
    exact (points_checkToken (hr.lines t (by simp [htokens]))).bind fun _ => .pure trivial
  · exact .pure trivial

theorem tells_expect (kind : TokenKind) (description : String) :
    Tells L (fun t => L t.line) (expect kind description) := by
  unfold expect
  exact .look fun t ht => .ite tells_advance (.ite (.fail ht _) (.fail ht _))

theorem points_expectSymbol (s : String) : Points L (expectSymbol s) := .discard (tells_expect _ s)

theorem tells_expectName : Tells L (fun x => L x.1.line) expectName := by
  unfold expectName
  refine .look fun t ht => ?_
  split
  · exact points_advance.bind fun _ => .pure ht
  · exact .fail ht _
  · exact .fail ht _

theorem points_skip? (kind : TokenKind) : Points L (skip? kind) := by
  unfold skip?
  exact .look fun t _ => .ite (points_advance.bind fun _ => .pure trivial) (.pure trivial)

theorem points_loop {step : α → Parser (Option α)} (h : ∀ a, Points L (step a)) (a : α) : Points L (loop step a) := by
  have hiterate : ∀ fuel a, Points L (iterate step fuel a) := by
    intro fuel
    induction fuel with
    | zero => exact fun a => .pure trivial
    | succ fuel ih =>
      intro a
      unfold iterate
      refine (h a).bind fun b => ?_
      split
      · exact ih _
      · exact .pure trivial
  exact Tells.get fun r _ => hiterate _ a

theorem points_meetsName (names : List String) : Points L (meetsName names) := by
  unfold meetsName
  refine .look fun t _ => ?_
  split <;> exact .pure trivial

/-! ### Expressions -/

theorem points_texts (first : String) : Points L (texts first) := by
  unfold texts
  refine points_loop (fun s => .look fun t _ => ?_) first
  split
  · exact points_advance.bind fun _ => .pure trivial
  · exact .pure trivial

theorem points_dottedName (first : String) : Points L (dottedName first) := by
  unfold dottedName
  refine points_loop (fun s => (points_skip? _).bind fun _ => .ite ?_ (.pure trivial)) first
  exact tells_expectName.bind fun _ _ => .pure trivial

theorem points_itemsUpTo {item : Parser α} (hitem : Points L item) (close : String) :
    Points L (itemsUpTo item close) := by
  unfold itemsUpTo
  refine (points_loop (fun items => ?_) []).bind fun items => (points_expectSymbol close).bind fun _ => .pure trivial
  refine .look fun t _ => .ite (.pure trivial) (.join (points_expectSymbol ",") ?_)
  exact .look fun t _ => .ite (.pure trivial) (hitem.bind fun _ => .pure trivial)

theorem points_atTupleEnd : Points L atTupleEnd := by
  unfold atTupleEnd
  refine .look fun t _ => ?_
  split <;> exact .pure trivial

theorem points_sequence {item : Parser α} (hitem : Points L item) : Points L (sequence item) := by
  unfold sequence
  refine (points_loop ?_ _).bind fun _ => .pure trivial
  rintro ⟨items, isTuple, goesOn⟩
  refine .ite (.pure trivial) (.join (points_expectSymbol ",") (points_atTupleEnd.bind fun _ => ?_))
  exact .ite (.pure trivial) (hitem.bind fun _ => .look fun t _ => .ite (.pure trivial) (.pure trivial))

theorem points_tupleOf {item : Parser Expr} (hitem : Points L item) (mayBeEmpty : Bool) :
    Points L (tupleOf item mayBeEmpty) := by
  unfold tupleOf
  refine (points_sequence hitem).bind fun x => ?_
  split
  · exact .pure trivial
  · exact .pure trivial
  · exact .ite (.pure trivial) (.look fun t ht => .fail ht _)

section
variable {inner : Parser Expr} (hinner : Points L inner)
include hinner

theorem points_mapping : Points L (mapping inner) := by
  unfold mapping
  refine (points_itemsUpTo ?_ _).bind fun _ => .pure trivial
  exact hinner.bind fun _ => (points_expectSymbol ":").bind fun _ => hinner.bind fun _ => .pure trivial

theorem points_primary : Points L (primary inner) := by
  unfold primary
  refine .look fun t ht => ?_
  split
  · refine points_advance.bind fun _ => ?_
    split <;> exact .pure trivial
  · exact points_advance.bind fun _ => (points_texts _).bind fun _ => .pure trivial
  · exact points_advance.bind fun _ => .pure trivial
  · exact points_advance.bind fun _ => .pure trivial
  · refine points_advance.bind fun _ => (points_tupleOf hinner true).bind fun e => ?_
    exact (points_expectSymbol ")").bind fun _ => .pure trivial
  · exact points_advance.bind fun _ => (points_itemsUpTo hinner "]").bind fun _ => .pure trivial
  · exact points_advance.bind fun _ => points_mapping hinner
  · exact .fail ht _

theorem points_sliceBound (ends : List String) : Points L (sliceBound inner ends) := by
  unfold sliceBound
  refine .look fun t _ => ?_
  split
  · exact .ite (.pure trivial) hinner
  · exact hinner

theorem points_subscript (e : Expr) : Points L (subscript inner e) := by
  unfold subscript
  refine .look fun t _ => .either (.pure trivial) hinner fun first => (points_skip? _).bind fun _ => ?_
  refine .ite ((points_sliceBound hinner _).bind fun last => (points_skip? _).bind fun _ => ?_) (.pure trivial)
  exact .either (points_sliceBound hinner _) (.pure trivial) fun step => .pure trivial

theorem points_subscripted (e : Expr) : Points L (subscripted inner e) := by
  unfold subscripted
  refine (points_loop (fun subscripts => ?_) []).bind fun _ => (points_expectSymbol "]").bind fun _ => ?_
  · refine .look fun t _ => .ite (.pure trivial) (.join (points_expectSymbol ",") ?_)
    exact (points_subscript hinner e).bind fun _ => .pure trivial
  · split <;> exact .pure trivial

theorem points_argument {line : Nat} (hline : L line) (a : Arguments) : Points L (argument inner line a) := by
  unfold argument
  refine .look fun t _ => ?_
  split
  · exact .check hline (points_advance.bind fun _ => hinner.bind fun _ => .pure trivial)
  · exact .check hline (points_advance.bind fun _ => hinner.bind fun _ => .pure trivial)
  · refine points_ahead.bind fun _ => .ite (.check hline ?_) (.check hline (hinner.bind fun _ => .pure trivial))
    exact points_advance.bind fun _ => points_advance.bind fun _ => hinner.bind fun _ => .pure trivial
  · exact .check hline (hinner.bind fun _ => .pure trivial)

theorem points_arguments : Points L (arguments inner) := by
  unfold arguments
  refine (tells_expect _ _).bind fun opening hopening => ?_
  refine (points_loop ?_ _).bind fun _ => (points_expectSymbol ")").bind fun _ => .pure trivial
  rintro ⟨a, isFirst⟩
  refine .look fun t _ => .ite (.pure trivial) (.join (points_expectSymbol ",") ?_)
  exact .look fun t _ => .ite (.pure trivial) ((points_argument hinner hopening a).bind fun _ => .pure trivial)

theorem points_argumentsIfAny : Points L (argumentsIfAny inner) := by
  unfold argumentsIfAny
  exact .look fun t _ => .ite (points_arguments hinner) (.pure trivial)

theorem points_members (e : Expr) : Points L (members inner e) := by
  unfold members
  refine points_loop (fun e => .look fun t _ => ?_) e
  split
  · refine points_advance.bind fun _ => tells_advance.bind fun t ht => ?_
    split
    · exact .pure trivial
    · exact .pure trivial
    · exact .fail ht _
  · exact points_advance.bind fun _ => (points_subscripted hinner e).bind fun _ => .pure trivial
  · exact (points_arguments hinner).bind fun _ => .pure trivial
  · exact .pure trivial

theorem points_filterOf (e : Expr) : Points L (filterOf inner e) := by
  unfold filterOf
  refine tells_expectName.bind fun _ _ => (points_dottedName _).bind fun _ => ?_
  exact (points_argumentsIfAny hinner).bind fun _ => .pure trivial

theorem points_filters (e : Expr) : Points L (filters inner e) := by
  unfold filters
  refine points_loop (fun e => (points_skip? _).bind fun _ => .ite ?_ (.pure trivial)) e
  exact (points_filterOf hinner e).bind fun _ => .pure trivial

theorem points_testArguments : Points L (testArguments inner) := by
  have hone : Points L (do pure [(Passing.positional, ← members inner (← primary inner))]) :=
    (points_primary hinner).bind fun e => (points_members hinner e).bind fun _ => .pure trivial
  unfold testArguments
  refine .look fun t ht => ?_
  split
  · exact points_arguments hinner
  · exact .ite (.pure trivial) (.ite (.fail ht _) hone)
  all_goals first
    | exact hone
    | exact .pure trivial

theorem points_applications (e : Expr) : Points L (applications inner e) := by
  unfold applications
  refine points_loop (fun e => .look fun t _ => ?_) e
  split
  · exact points_advance.bind fun _ => (points_filterOf hinner e).bind fun _ => .pure trivial
  · refine points_advance.bind fun _ => (points_skip? _).bind fun _ => tells_expectName.bind fun _ _ => ?_
    exact (points_dottedName _).bind fun _ => (points_testArguments hinner).bind fun _ => .pure trivial
  · exact (points_arguments hinner).bind fun _ => .pure trivial
  · exact .pure trivial

omit hinner in
theorem points_joined {operand : Parser Expr} (hoperand : Points L operand)
    (combine? : TokenKind → Option (Expr → Expr → Expr)) : Points L (joined operand combine?) := by
  unfold joined
  refine hoperand.bind fun e => points_loop (fun e => .look fun t _ => ?_) e
  split
  · exact points_advance.bind fun _ => hoperand.bind fun _ => .pure trivial
  · exact .pure trivial

theorem points_unary : Points L (unary inner) := by
  unfold unary
  refine (points_loop (fun signs => .look fun t _ => ?_) []).bind fun signs => ?_
  · split
    · exact points_advance.bind fun _ => .pure trivial
    · exact points_advance.bind fun _ => .pure trivial
    · exact .pure trivial
  · exact (points_primary hinner).bind fun e => (points_members hinner e).bind fun _ => points_applications hinner _

theorem points_powers : Points L (powers inner) := points_joined (points_unary hinner) _

theorem points_products : Points L (products inner) := points_joined (points_powers hinner) _

theorem points_concatenations : Points L (concatenations inner) := by
  unfold concatenations
  refine (points_products hinner).bind fun e => (points_loop (fun items => ?_) [e]).bind fun items => ?_
  · refine (points_skip? _).bind fun _ => .ite ?_ (.pure trivial)
    exact (points_products hinner).bind fun _ => .pure trivial
  · split <;> exact .pure trivial

theorem points_sums : Points L (sums inner) := points_joined (points_concatenations hinner) _

omit hinner in
theorem points_comparison? : Points L comparison? := by
  unfold comparison?
  refine .look fun t _ => ?_
  split
  all_goals first
    | exact points_advance.bind fun _ => .pure trivial
    | exact points_ahead.bind fun _ => .ite (points_advance.bind fun _ => points_advance.bind fun _ => .pure trivial)
        (.pure trivial)
    | exact .pure trivial

theorem points_comparisons : Points L (comparisons inner) := by
  unfold comparisons
  refine (points_sums hinner).bind fun first => (points_loop (fun others => ?_) []).bind fun _ => .pure trivial
  refine points_comparison?.bind fun c => ?_
  split
  · exact (points_sums hinner).bind fun _ => .pure trivial
  · exact .pure trivial

theorem points_negations : Points L (negations inner) := by
  unfold negations
  refine (points_loop (fun n => ?_) 0).bind fun count => (points_comparisons hinner).bind fun _ => .pure trivial
  exact (points_skip? _).bind fun _ => .ite (.pure trivial) (.pure trivial)

theorem points_conjunctions : Points L (conjunctions inner) := points_joined (points_negations hinner) _

theorem points_disjunctions : Points L (disjunctions inner) := points_joined (points_conjunctions hinner) _

theorem points_conditionals : Points L (conditionals inner) := by
  unfold conditionals
  refine .look fun start _ => (points_disjunctions hinner).bind fun e => ?_
  refine (points_loop ?_ _).bind fun _ => .pure trivial
  rintro ⟨e, line⟩
  refine (points_skip? _).bind fun _ => .ite ?_ (.pure trivial)
  refine (points_disjunctions hinner).bind fun test => (points_skip? _).bind fun _ => ?_
  exact .either hinner (.pure trivial) fun otherwise => .look fun t _ => .pure trivial

end

theorem points_expressionTo (depth : Nat) : Points L (expressionTo depth) := by
  induction depth with
  | zero => exact .look fun t ht => .fail ht _
  | succ depth ih => exact points_conditionals ih

theorem points_expression : Points L expression := .get fun _ _ => points_expressionTo _

theorem points_tuple : Points L tuple := points_tupleOf points_expression false

theorem points_plainTuple : Points L plainTuple := points_tupleOf (points_disjunctions points_expression) false

/-! ### Targets and words -/

theorem tells_expectFreeName : Tells L (fun x => L x.1.line) expectFreeName := by
  unfold expectFreeName
  exact tells_expectName.bind fun x hx => .join (.fail hx _) (.pure hx)

theorem points_oneTarget (mayBeAttribute : Bool) : Points L (oneTarget mayBeAttribute) := by
  unfold oneTarget
  refine .look fun t _ => (points_primary points_expression).bind fun e => ?_
  split
  · refine .look fun t' _ => .ite ?_ (.pure trivial)
    exact points_advance.bind fun _ => tells_expectName.bind fun _ _ => .pure trivial
  · split <;> exact .pure trivial

theorem points_target (mayBeAttribute : Bool) : Points L (target mayBeAttribute) := by
  unfold target
  refine .look fun t ht => (points_sequence (points_oneTarget mayBeAttribute)).bind fun x => ?_
  split
  split
  · exact .pure trivial
  · exact .fail ht _
  · exact .look fun t ht => .fail ht _
  · split
    · exact .pure trivial
    · exact .fail ht _

theorem points_skipNames? (first : List String) (second : String) : Points L (skipNames? first second) := by
  unfold skipNames?
  refine (points_meetsName first).bind fun _ => .ite (points_ahead.bind fun _ => ?_) (.pure trivial)
  exact .ite (points_advance.bind fun _ => points_advance.bind fun _ => .pure trivial) (.pure trivial)

theorem points_contextWords : Points L contextWords := points_skipNames? _ _

theorem points_loadTag : Points L loadTag := by
  unfold loadTag
  refine points_expression.bind fun e => (points_skipNames? _ _).bind fun _ => ?_
  exact Points.bind (.discard points_contextWords) fun _ => .pure trivial

theorem points_importTag : Points L importTag := by
  unfold importTag
  refine points_expression.bind fun e => Points.bind (.discard (tells_expect _ _)) fun _ => ?_
  exact Points.bind (.discard tells_expectFreeName) fun _ =>
    Points.bind (.discard points_contextWords) fun _ => .pure trivial

theorem points_importNamesTag : Points L importNamesTag := by
  unfold importNamesTag
  refine points_expression.bind fun e => Points.bind (.discard (tells_expect _ _)) fun _ => ?_
  refine Points.bind (.discard (points_loop ?_ _)) fun _ => .pure trivial
  rintro ⟨isFirst, goesOn⟩
  refine .ite (.pure trivial) (.join (points_expectSymbol ",") (.look fun t _ => ?_))
  split
  · refine points_contextWords.bind fun _ => .ite (.pure trivial) (tells_expectFreeName.bind fun x hx => ?_)
    refine .join (.throw fun line hline => Option.some.inj hline ▸ hx) ((points_skip? _).bind fun _ => ?_)
    refine .join (.discard tells_expectFreeName) (points_contextWords.bind fun _ => .ite (.pure trivial) ?_)
    exact .look fun t _ => .pure trivial
  · exact Points.bind (.discard tells_expectName) fun _ => .pure trivial

theorem points_parameters : Points L parameters := by
  unfold parameters
  refine (points_expectSymbol "(").bind fun _ => (points_loop ?_ _).bind fun x => ?_
  · rintro ⟨names, defaults⟩
    refine .look fun t _ => .ite (.pure trivial) (.join (points_expectSymbol ",") ?_)
    refine tells_expectFreeName.bind fun _ _ => (points_skip? _).bind fun _ => .ite ?_ ?_
    · exact points_expression.bind fun _ => .pure trivial
    · exact .ite (.pure trivial) (.look fun t ht => .fail ht _)
  · exact (points_expectSymbol ")").bind fun _ => .pure trivial

theorem points_printTag : Points L printTag := by
  unfold printTag
  refine (points_loop (fun items => ?_) []).bind fun _ => .pure trivial
  refine .look fun t _ => .ite (.pure trivial) (.join (points_expectSymbol ",") ?_)
  exact points_expression.bind fun _ => .pure trivial

/-! ### Bodies and tags -/

section
variable {parts : Body} (hparts : ∀ s, Points L (parts s)) {s : Surroundings}
include hparts

theorem points_bodyUpTo (ends : List String) : Points L (bodyUpTo parts s ends) := by
  unfold bodyUpTo
  refine Points.bind (.discard (points_skip? _)) fun _ => Points.bind (.discard (tells_expect _ _)) fun _ => ?_
  exact (hparts _).bind fun body => .look fun t ht => .join (.fail ht _) (.pure trivial)

theorem points_bodyTo (ending : String) : Points L (bodyTo parts s ending) := by
  unfold bodyTo
  exact (points_bodyUpTo hparts _).bind fun body => points_advance.bind fun _ => .pure trivial

theorem points_choiceTo (branches : Nat) : Points L (choiceTo parts s branches) := by
  induction branches with
  | zero => exact .look fun t ht => .fail ht _
  | succ branches ih =>
    unfold choiceTo
    refine points_plainTuple.bind fun test => (points_bodyUpTo hparts _).bind fun body => ?_
    refine tells_advance.bind fun t _ => ?_
    split
    · exact ih.bind fun _ => .pure trivial
    · exact (points_bodyTo hparts _).bind fun _ => .pure trivial
    · exact .pure trivial

theorem points_choiceTag : Points L (choiceTag parts s) :=
  .get fun _ _ => (points_choiceTo hparts _).bind fun _ => .pure trivial

theorem points_loopTag : Points L (loopTag parts s) := by
  unfold loopTag
  refine (points_target false).bind fun variable_ => Points.bind (.discard (tells_expect _ _)) fun _ => ?_
  refine points_plainTuple.bind fun range => (points_skip? _).bind fun _ => ?_
  refine .optional points_expression fun test => ?_
  refine (points_skip? _).bind fun isRecursive => (points_bodyUpTo hparts _).bind fun body => ?_
  refine tells_advance.bind fun t _ => ?_
  split
  · exact (points_bodyTo hparts _).bind fun _ => .pure trivial
  · exact .pure trivial

theorem points_assignTag : Points L (assignTag parts s) := by
  unfold assignTag
  refine (points_target true).bind fun variable_ => (points_skip? _).bind fun _ => .ite ?_ ?_
  · exact points_tuple.bind fun _ => .pure trivial
  · refine (points_filters points_expression _).bind fun e => ?_
    exact (points_bodyTo hparts _).bind fun _ => .pure trivial

theorem points_scopedTag : Points L (scopedTag parts s) := by
  unfold scopedTag
  refine (points_loop (fun items => ?_) []).bind fun items => ?_
  · refine .look fun t _ => .ite (.pure trivial) (.join (points_expectSymbol ",") ?_)
    refine (points_target false).bind fun _ => (points_expectSymbol "=").bind fun _ => ?_
    exact points_expression.bind fun _ => .pure trivial
  · exact (points_bodyTo hparts _).bind fun _ => .pure trivial

theorem points_blockTag (line : Nat) : Points L (blockTag parts s line) := by
  unfold blockTag
  refine tells_expectName.bind fun x _ => ?_
  refine (points_skip? _).bind fun isScoped => (points_skip? _).bind fun isRequired => ?_
  refine .look fun t ht => .join (.fail ht _) ((points_bodyTo hparts _).bind fun body => ?_)
  have hend : Points L (do
      discard (skip? (.name x.2))
      pure (Part.block x.2 isScoped isRequired line body)) :=
    Points.bind (.discard (points_skip? _)) fun _ => .pure trivial
  exact .ite (.look fun t ht => Points.bind (.fail ht _) fun _ => hend) hend

theorem points_defineTag (line : Nat) : Points L (defineTag parts s line) := by
  unfold defineTag
  refine tells_expectFreeName.bind fun x _ => points_parameters.bind fun taken => ?_
  exact (points_bodyTo hparts _).bind fun _ => .pure trivial

theorem points_callTag {line : Nat} (hline : L line) : Points L (callTag parts s line) := by
  unfold callTag
  refine .look fun t _ => .either points_parameters (.pure trivial) fun taken => ?_
  refine points_expression.bind fun e => ?_
  split
  · exact (points_bodyTo hparts _).bind fun _ => .pure trivial
  · exact .fail hline _

theorem points_ownTag (word : String) {line : Nat} (hline : L line) : Points L (ownTag parts s word line) := by
  have hone {m : Parser Part} (hm : Points L m) : Points L (do pure [← m]) := hm.bind fun _ => .pure trivial
  unfold ownTag
  split
  · exact hone (points_choiceTag hparts)
  · exact hone (points_loopTag hparts)
  · exact hone (points_assignTag hparts)
  · exact hone (points_scopedTag hparts)
  · exact points_printTag
  · exact hone (points_blockTag hparts line)
  · exact points_expression.bind fun _ => .pure trivial
  · exact hone points_loadTag
  · exact hone points_importTag
  · exact hone points_importNamesTag
  · exact hone (points_defineTag hparts line)
  · exact hone (points_callTag hparts hline)
  · refine points_expression.bind fun e => ?_
    exact (points_bodyTo hparts _).bind fun _ => .pure trivial
  · refine (points_filterOf points_expression _).bind fun e => ?_
    refine (points_filters points_expression _).bind fun e => ?_
    exact (points_bodyTo hparts _).bind fun _ => .pure trivial

omit hparts in
theorem points_directiveTag (tag : String) {line : Nat} (hline : L line) : Points L (directiveTag tag line) := by
  unfold directiveTag
  refine points_expression.bind fun e => ?_
  split
  · intro r hr
    rw [Run.start_bind, start_modify]
    exact Tells.pure trivial _ ⟨hr.lines, hr.intact.imp fun last h => ⟨h.1, h.2.last, h.2.next⟩⟩
  · exact .fail hline _

theorem points_statement (s : Surroundings) : Points L (statement parts s) := by
  unfold statement
  refine .look fun t ht => ?_
  split
  · refine .ite (points_advance.bind fun _ => points_ownTag hparts _ ht) (.ite ?_ (.fail ht _))
    exact points_advance.bind fun _ => (points_directiveTag _ ht).bind fun _ => .pure trivial
  · exact .fail ht _

end

theorem points_currentName? : Points L currentName? := by
  unfold currentName?
  refine .look fun t _ => ?_
  split <;> exact .pure trivial

/-- The parts of a body, by induction on the fuel: each ends with what is left to it. -/
theorem points_partsTo (fuel : Nat) (s : Surroundings) : Points L (partsTo fuel s) := by
  induction fuel generalizing s with
  | zero => exact .pure trivial
  | succ fuel ih =>
    unfold partsTo
    refine .look fun t _ => ?_
    split
    · exact points_advance.bind fun _ => (ih s).bind fun _ => .pure trivial
    · refine points_advance.bind fun _ => points_tuple.bind fun e => ?_
      exact Points.bind (.discard (tells_expect _ _)) fun _ => (ih s).bind fun _ => .pure trivial
    · refine points_advance.bind fun _ => points_currentName?.bind fun name? => ?_
      split
      · refine .ite (.pure trivial) ((points_statement ih s).bind fun part => ?_)
        exact Points.bind (.discard (tells_expect _ _)) fun _ => (ih s).bind fun _ => .pure trivial
      · exact Points.bind (.discard (points_statement ih s)) fun _ => .pure trivial
    · exact .pure trivial

end Parser

/-! ### Templates and texts -/

section
variable {directives : List String} {fault : Fault} {line : Nat}

/-- A template that cannot be read is at fault on the line of one of its tokens. -/
theorem parse_line {tokens : List Token} {last : Token} (hlast : tokens.getLast? = some last) (hend : last.EndsText)
    (h : (parse directives tokens).1 = .error fault) (hline : fault.line? = some line) :
    ∃ t ∈ tokens, t.line = line := by
  have hne : tokens ≠ [] := List.ne_nil_of_mem (List.mem_of_getLast? hlast)
  unfold parse at h
  simp only [Parser.checkNext, bind_assoc] at h
  rw [Run.start_bind_ok (Parser.current_start _), Run.start_bind] at h
  split at h
  · next u hcheck =>
    obtain ⟨rfl, hnext⟩ := Parser.start_checkToken hcheck
    have hon : Reading.On (fun line => ∃ t ∈ tokens, t.line = line) ⟨tokens.length, tokens, []⟩ :=
      ⟨fun t ht => ⟨t, ht, rfl⟩, last, hend, hlast, hnext⟩
    exact (Parser.points_partsTo _ _ _ hon).1 fault _ (Prod.ext h rfl) line hline
  · next fault' u hcheck =>
    obtain ⟨-, htold⟩ := Parser.start_checkToken_error hcheck
    obtain rfl : fault' = fault := Except.error.inj h
    exact ⟨_, Reading.next_mem hne, (htold line hline).symm⟩

variable {o : Options}

theorem tokenize_last (cs : List Char) : ∃ last, (tokenize o cs).getLast? = some last ∧ last.EndsText := by
  unfold tokenize
  simp only
  split
  · exact ⟨⟨1, .finish⟩, rfl, .inl rfl⟩
  · next last hlast =>
    split
    · next hkind => exact ⟨last, hlast, .inr ⟨_, hkind⟩⟩
    · exact ⟨⟨last.line, .finish⟩, List.getLast?_concat, .inl rfl⟩

/-- A text that cannot be read as a template is at fault on one of its lines: the first, or one that begins behind
some of its line breaks. -/
theorem parse_tokenize_line (ho : o.delimiters = .standard) {cs : List Char}
    (h : (parse directives (tokenize o cs)).1 = .error fault) (hline : fault.line? = some line) :
    ∃ before behind, cs = before ++ behind ∧ line = 1 + lineBreaks before := by
  have hplace {t : Token} (ht : t.StandsIn 1 (sourceText o.keepLastLineEnd cs)) :
      ∃ before behind, cs = before ++ behind ∧ t.line = 1 + lineBreaks before := by
    obtain ⟨before, behind, hcs, -, hline, -⟩ := ht.exists_place
    exact ⟨before, behind, hcs, hline⟩
  obtain ⟨last, hlast, hend⟩ := tokenize_last cs
  obtain ⟨t, ht, rfl⟩ := parse_line hlast hend h hline
  rcases tokenize_lines ho cs t ht with hstands | ⟨-, hfirst | ⟨u, -, hstands, hsame⟩⟩
  · exact hplace hstands
  · exact ⟨[], cs, rfl, hfirst⟩
  · exact hsame ▸ hplace hstands

end
end Template
end Transclusion

import Mathlib.Data.List.Basic
import Transclusion.Yaml.Data

/-! What can be wrong with data.

A text that is no data fails with a fault of data (`Fault.IsOfData`): its notation is
broken, or a scalar in it is no number, day, moment or character. No other fault comes of
reading data (`failsBy_load`), so whoever reads them can tell its own faults from theirs.
The readers of nodes fail as long as what they are put together from does; all of them are
bounded by one number, on which the induction is. -/
namespace Transclusion

/-- The faults that data can have. -/
def Fault.IsOfData : Fault → Prop
  | .data | .codePoint | .overflow _ | .notDigits _ _ | .digitLimit _ | .calendar _ | .zoneRange _
  | .raised _ _ | .noDigits | .noMoment => True
  | _ => False

/-- What fails, fails with what has a property. -/
def FailsBy {ε α : Type} (P : ε → Prop) (x : Except ε α) : Prop := ∀ e, x = .error e → P e

namespace FailsBy
variable {ε δ α β : Type} {P : ε → Prop} {Q : δ → Prop}

theorem ok (a : α) : FailsBy P (.ok a) := fun _ h => nomatch h

theorem error {e : ε} (h : P e) : FailsBy P (.error e : Except ε α) := by
  intro e' he
  cases he
  exact h

theorem bind {x : Except ε α} {f : α → Except ε β} (hx : FailsBy P x) (hf : ∀ a, FailsBy P (f a)) :
    FailsBy P (x >>= f) := by
  intro e he
  cases x with
  | error e' => exact hx e (congrArg Except.error (Except.error.inj he))
  | ok a => exact hf a e he

theorem map {x : Except ε α} (hx : FailsBy P x) (f : α → β) : FailsBy P (x.map f) := by
  intro e he
  cases x with
  | error e' =>
    cases he
    exact hx e rfl
  | ok a => cases he

theorem mapError {x : Except ε α} {f : ε → δ} (hx : FailsBy P x) (hf : ∀ e, P e → Q (f e)) :
    FailsBy Q (x.mapError f) := by
  intro e he
  cases x with
  | error e' =>
    cases he
    exact hf e' (hx e' rfl)
  | ok a => cases he

theorem ite {p : Prop} [Decidable p] {x y : Except ε α} (hx : FailsBy P x) (hy : FailsBy P y) :
    FailsBy P (if p then x else y) := by
  split
  · exact hx
  · exact hy

theorem mapM {f : α → Except ε β} (hf : ∀ a, FailsBy P (f a)) (as : List α) : FailsBy P (as.mapM f) := by
  induction as with
  | nil => exact ok _
  | cons a rest ih =>
    rw [List.mapM_cons]
    exact (hf a).bind fun b => ih.bind fun bs => ok _

end FailsBy

namespace Yaml

/-! ### Scalars -/

/-- What a reader makes of a text, if anything, fails with a fault of data. -/
def OptionFails {α : Type} (x : Option (Except Fault α)) : Prop := ∀ y ∈ x, FailsBy Fault.IsOfData y

theorem OptionFails.or {α : Type} {x y : Option (Except Fault α)} (hx : OptionFails x) (hy : OptionFails y) :
    OptionFails (x <|> y) := by
  intro z hz
  cases x with
  | none => exact hy z hz
  | some x => exact hx z hz

theorem OptionFails.getD {α : Type} {x : Option (Except Fault α)} {y : Except Fault α} (hx : OptionFails x)
    (hy : FailsBy Fault.IsOfData y) : FailsBy Fault.IsOfData (x.getD y) := by
  cases x with
  | none => exact hy
  | some x => exact hx x rfl

theorem failsBy_decimalNumber (cs : List Char) : FailsBy Fault.IsOfData (decimalNumber cs) := by
  unfold decimalNumber
  exact .ite (.error trivial) (.ok _)

theorem optionFails_markedNumber? (base : Nat) (isDigit : Char → Bool) (cs : List Char) :
    OptionFails (markedNumber? base isDigit cs) := by
  unfold markedNumber?
  intro y hy
  split at hy
  · cases hy
  · split at hy <;> cases hy
    · exact .error trivial
    · exact .ok _

theorem optionFails_magnitude? (cs : List Char) : OptionFails (magnitude? cs) := by
  unfold magnitude?
  split
  · exact optionFails_markedNumber? _ _ _
  · exact optionFails_markedNumber? _ _ _
  · intro y hy
    split at hy <;> cases hy
    exact .ok _
  · split
    · nofun
    · intro y hy
      split at hy <;> cases hy
      exact (failsBy_decimalNumber _).map _

theorem optionFails_integer? (cs : List Char) : OptionFails (integer? cs) := by
  intro y hy
  obtain ⟨n, hn, rfl⟩ := Option.map_eq_some_iff.1 hy
  exact ((optionFails_magnitude? _ n hn).bind fun _ => .ok _).map _

theorem failsBy_sixtiethsFrom (sum : Float) (worth : Nat) (xs : List Decimal.Binary64) :
    FailsBy Fault.IsOfData (sixtiethsFrom sum worth xs) := by
  induction xs generalizing sum worth with
  | nil => exact .ok _
  | cons x rest ih =>
    unfold sixtiethsFrom
    exact .ite (.error trivial) (ih _ _)

theorem failsBy_realMagnitude? {cs : List Char} {maySign : Bool} {x : Except Fault Decimal.Binary64}
    (h : realMagnitude? cs = some (maySign, x)) : FailsBy Fault.IsOfData x := by
  unfold realMagnitude? at h
  split at h
  · cases h
  · simp only at h
    split at h
    · split at h
      all_goals first | (cases h; exact .ok _) | skip
      split at h
      · obtain ⟨e, -, he⟩ := Option.map_eq_some_iff.1 h
        cases he
        exact .ok _
      · cases h
    · split at h
      · split at h
        · obtain ⟨e, -, he⟩ := Option.map_eq_some_iff.1 h
          cases he
          exact .ok _
        · cases h
      · split at h <;> cases h
        exact (failsBy_sixtiethsFrom _ _ _).map _
      · cases h

theorem optionFails_real? (cs : List Char) : OptionFails (real? cs) := by
  unfold real?
  intro y hy
  simp only at hy
  split at hy
  · next maySign x hx =>
    split at hy <;> cases hy
    exact (failsBy_realMagnitude? hx).map _
  · cases hy

theorem failsBy_calendarDay (parts : Nat × Nat × Nat) : FailsBy Fault.IsOfData (calendarDay parts) :=
  FailsBy.mapError (P := fun _ => True) (fun _ _ => trivial) fun _ _ => trivial

/-- A reader that may come to nothing before it comes to a result. -/
theorem OptionFails.bind {α β : Type} {x : Option α} {f : α → Option (Except Fault β)}
    (hf : ∀ a, OptionFails (f a)) : OptionFails (x >>= f) := by
  intro y hy
  obtain ⟨a, -, ha⟩ := Option.bind_eq_some_iff.1 hy
  exact hf a y ha

theorem OptionFails.some {α : Type} {x : Except Fault α} (hx : FailsBy Fault.IsOfData x) :
    OptionFails (some x) := by
  intro y hy
  cases hy
  exact hx

theorem OptionFails.none {α : Type} : OptionFails (none : Option (Except Fault α)) := nofun

theorem OptionFails.ite {α : Type} {p : Prop} [Decidable p] {x y : Option (Except Fault α)} (hx : OptionFails x)
    (hy : OptionFails y) : OptionFails (if p then x else y) := by
  split
  · exact hx
  · exact hy

theorem optionFails_day? (cs : List Char) : OptionFails (day? cs) :=
  .bind fun _ => .ite (.some ((failsBy_calendarDay _).map _)) .none

theorem optionFails_moment? (cs : List Char) : OptionFails (moment? cs) := by
  unfold moment?
  refine .bind fun _ => .bind fun _ => .bind fun _ => .bind fun _ => .bind fun _ => .bind fun _ => .bind fun _ =>
    .bind fun _ => .some ?_
  split
  · exact .error trivial
  · refine (failsBy_calendarDay _).bind fun _ => FailsBy.map ?_ _
    exact FailsBy.mapError (P := fun _ => True) (fun _ _ => trivial) fun _ _ => trivial

theorem failsBy_plainValue (cs : List Char) : FailsBy Fault.IsOfData (plainValue cs) := by
  unfold plainValue
  refine .ite (.ok _) (.ite (.ok _) (.ite (.ok _) (.ite (.error trivial) ?_)))
  split
  · next result hresult =>
    have hreaders := (optionFails_real? cs).or ((optionFails_integer? cs).or
      ((optionFails_day? cs).or (optionFails_moment? cs)))
    exact hreaders result hresult
  · exact .ok _

theorem failsBy_wholeOf (base : Nat) (cs : List Char) : FailsBy Fault.IsOfData (wholeOf base cs) := by
  unfold wholeOf
  refine .ite (.error trivial) (.ite ?_ ?_)
  · exact (failsBy_decimalNumber _).bind fun _ => .ok _
  · exact .ok _

theorem failsBy_taggedInteger (cs : List Char) : FailsBy Fault.IsOfData (taggedInteger cs) := by
  unfold taggedInteger
  simp only
  split
  · exact .error trivial
  · exact .ok _
  · exact (failsBy_wholeOf _ _).bind fun _ => .ok _
  · exact (failsBy_wholeOf _ _).bind fun _ => .ok _
  · exact (failsBy_wholeOf _ _).bind fun _ => .ok _
  · exact (FailsBy.mapM (failsBy_wholeOf 10) _).bind fun _ => .ok _

theorem failsBy_realOf (cs : List Char) : FailsBy Fault.IsOfData (realOf cs) := by
  unfold realOf
  simp only
  split
  · exact .ok _
  · exact .error trivial

theorem failsBy_taggedReal (cs : List Char) : FailsBy Fault.IsOfData (taggedReal cs) := by
  unfold taggedReal
  refine .ite (.error trivial) ?_
  simp only
  split
  · exact .ok _
  · exact .ok _
  · refine .ite ?_ ((failsBy_realOf _).bind fun _ => .ok _)
    exact (FailsBy.mapM failsBy_realOf _).bind fun _ => ((failsBy_sixtiethsFrom _ _ _).map _).bind fun _ => .ok _

theorem failsBy_taggedMoment (cs : List Char) : FailsBy Fault.IsOfData (taggedMoment cs) := by
  unfold taggedMoment
  refine OptionFails.getD (.or (.bind fun _ => .ite ?_ .none) (optionFails_moment? cs)) (.error trivial)
  exact .some ((failsBy_calendarDay _).map _)

theorem failsBy_readingValue (reading : Reading) (cs : List Char) : FailsBy Fault.IsOfData (reading.value cs) := by
  cases reading with
  | plain => exact failsBy_plainValue cs
  | text => exact .ok _
  | null => exact .ok _
  | truth => exact .ite (.ok _) (.ite (.ok _) (.error trivial))
  | integer => exact failsBy_taggedInteger cs
  | real => exact failsBy_taggedReal cs
  | moment => exact failsBy_taggedMoment cs

/-! ### Values of nodes -/

def Flaw.IsOfData (flaw : Flaw) : Prop := flaw.fault.IsOfData

theorem failsBy_both {α β : Type} {x : Except Flaw α} {y : Except Flaw β} (hx : FailsBy Flaw.IsOfData x)
    (hy : FailsBy Flaw.IsOfData y) : FailsBy Flaw.IsOfData (both x y) := by
  intro flaw hflaw
  unfold Yaml.both at hflaw
  split at hflaw
  · cases hflaw
  · exact hx flaw (congrArg _ (Except.error.inj hflaw))
  · exact hy flaw (congrArg _ (Except.error.inj hflaw))
  · next e f =>
    obtain rfl := Except.error.inj hflaw
    split
    · exact hy f rfl
    · exact hx e rfl

theorem failsBy_inRound (round : Nat) (reading : Reading) (text : List Char) :
    FailsBy Flaw.IsOfData (inRound round (reading.value text)) :=
  (failsBy_readingValue reading text).mapError fun _ h => h

theorem failsBy_readAs (round : Nat) (reading : Option Reading) (text : Option (List Char)) {flaw : Flaw}
    (h : flaw.IsOfData) : FailsBy Flaw.IsOfData (Node.readAs round reading text flaw) := by
  unfold Node.readAs
  split
  · exact failsBy_inRound _ _ _
  · exact .error h

theorem failsBy_key (round : Nat) (node : Node) : FailsBy Flaw.IsOfData (node.key round) :=
  failsBy_readAs _ _ _ trivial

mutual

theorem failsBy_value (round : Nat) : (node : Node) → FailsBy Flaw.IsOfData (node.value round)
  | .scalar _ _ => by
    unfold Node.value
    exact failsBy_readAs _ _ _ trivial
  | .sequence _ nodes => by
    unfold Node.value
    exact .ite ((failsBy_items _ nodes).map _) (.ite ((failsBy_pairItems _ nodes).map _) (.error trivial))
  | .mapping _ nodes => by
    unfold Node.value
    have hpairs := failsBy_both (failsBy_takenPairs (round + 1) nodes) (failsBy_ownPairs (round + 1) nodes)
    exact .ite (.ite (hpairs.map _) (.error trivial)) (failsBy_readAs _ _ _ trivial)

theorem failsBy_items (round : Nat) : (nodes : List Node) → FailsBy Flaw.IsOfData (Node.items round nodes)
  | [] => .ok _
  | node :: rest => by
    unfold Node.items
    exact (failsBy_both (failsBy_value round node) (failsBy_items round rest)).map _

theorem failsBy_pairItems (round : Nat) :
    (nodes : List Node) → FailsBy Flaw.IsOfData (Node.pairItems round nodes)
  | [] => .ok _
  | node :: rest => by
    unfold Node.pairItems
    exact (failsBy_both (failsBy_pairOf round node) (failsBy_pairItems round rest)).map _

theorem failsBy_pairOf (round : Nat) : (node : Node) → FailsBy Flaw.IsOfData (node.pairOf round)
  | .mapping _ pairs => by
    unfold Node.pairOf
    exact failsBy_onlyPair round pairs
  | .scalar _ _ | .sequence _ _ => by
    unfold Node.pairOf
    exact .error trivial

theorem failsBy_onlyPair (round : Nat) :
    (pairs : List (Node × Node)) → FailsBy Flaw.IsOfData (Node.onlyPair round pairs)
  | [(k, v)] => by
    unfold Node.onlyPair
    exact (failsBy_both (failsBy_value round k) (failsBy_value round v)).map _
  | [] | _ :: _ :: _ => by
    unfold Node.onlyPair
    exact .error trivial

theorem failsBy_takenPairs (round : Nat) :
    (nodes : List (Node × Node)) → FailsBy Flaw.IsOfData (Node.takenPairs round nodes)
  | [] => .ok _
  | (k, v) :: rest => by
    unfold Node.takenPairs
    have hrest := failsBy_takenPairs round rest
    exact .ite ((failsBy_both (failsBy_merged round v) hrest).map _) hrest

theorem failsBy_ownPairs (round : Nat) :
    (nodes : List (Node × Node)) → FailsBy Flaw.IsOfData (Node.ownPairs round nodes)
  | [] => .ok _
  | (k, v) :: rest => by
    unfold Node.ownPairs
    refine .ite (failsBy_ownPairs round rest) (FailsBy.map ?_ _)
    exact failsBy_both (failsBy_both (failsBy_key round k) (failsBy_value round v)) (failsBy_ownPairs round rest)

theorem failsBy_merged (round : Nat) : (node : Node) → FailsBy Flaw.IsOfData (node.merged round)
  | .mapping _ nodes => by
    unfold Node.merged
    exact (failsBy_both (failsBy_takenPairs round nodes) (failsBy_ownPairs round nodes)).map _
  | .sequence _ nodes => by
    unfold Node.merged
    exact failsBy_mergedItems round nodes
  | .scalar _ _ => by
    unfold Node.merged
    exact .error trivial

theorem failsBy_mergedItems (round : Nat) :
    (nodes : List Node) → FailsBy Flaw.IsOfData (Node.mergedItems round nodes)
  | [] => .ok _
  | node :: rest => by
    unfold Node.mergedItems
    exact (failsBy_both (failsBy_mergedItems round rest) (failsBy_merged round node)).map _

end

/-! ### Readers of nodes -/

/-- A reader that fails with faults of data only. -/
def IsSound {α : Type} (r : Read α) : Prop := ∀ o, FailsBy Fault.IsOfData (r.run o)

namespace IsSound
variable {α β : Type}

theorem pure (a : α) : IsSound (Pure.pure a : Read α) := fun _ => .ok _

theorem fail : IsSound (Read.fail : Read α) := fun _ => .error trivial

theorem bind {r : Read α} {f : α → Read β} (hr : IsSound r) (hf : ∀ a, IsSound (f a)) : IsSound (r >>= f) :=
  fun o => (hr o).bind fun result => hf result.1 result.2

theorem discard {r : Read α} (hr : IsSound r) : IsSound (Functor.discard r) :=
  fun o => (hr o).bind fun _ => .ok _

theorem ite {p : Prop} [Decidable p] {r s : Read α} (hr : IsSound r) (hs : IsSound s) :
    IsSound (if p then r else s) := by
  split
  · exact hr
  · exact hs

theorem get : IsSound (MonadState.get : Read Outline) := fun _ => .ok _

theorem change (f : Outline → Outline) : IsSound (modify f : Read Unit) := fun _ => .ok _

theorem peek : IsSound Read.peek := by
  refine get.bind fun o => ?_
  split
  · exact pure _
  · next fault rest _ => exact fun _ => .error (by cases fault <;> trivial)
  · exact pure _

theorem accept (token : Token) : IsSound (Read.accept token) :=
  peek.bind fun _ => ite ((change _).bind fun _ => pure _) (pure _)

theorem expect (token : Token) : IsSound (Read.expect token) :=
  (accept token).bind fun _ => ite (pure _) fail

/-- What comes first, or behind a comma. -/
theorem behindComma {isFirst : Bool} {f : PUnit → Read α} (hf : ∀ u, IsSound (f u)) :
    IsSound (if isFirst = true then f () else Read.expect .comma >>= f) :=
  ite (hf ()) ((expect _).bind hf)

theorem at? (tokens : List Token) : IsSound (Read.at? tokens) := peek.bind fun _ => pure _

theorem anchor? : IsSound Read.anchor? := by
  refine peek.bind fun _ => ?_
  split
  · exact (change _).bind fun _ => pure _
  · exact pure _

theorem tag? : IsSound Read.tag? := by
  refine peek.bind fun _ => ?_
  split
  · exact (change _).bind fun _ => pure _
  · exact pure _

theorem properties : IsSound Read.properties := by
  refine anchor?.bind fun early => tag?.bind fun written => ?_
  split
  · exact pure _
  · next tag =>
    refine ite (anchor?.bind fun late => get.bind fun o => ?_) ((pure _).bind fun late => get.bind fun o => ?_)
    all_goals
      split
      · exact pure _
      · exact fail

theorem aliased (name : List Char) : IsSound (Read.aliased name) := by
  refine get.bind fun o => ?_
  split
  · exact pure _
  · exact fail

theorem checkAnchor (name : Option (List Char)) : IsSound (Read.checkAnchor name) :=
  get.bind fun _ => ite fail (pure _)

theorem remember (name : Option (List Char)) (node : Node) : IsSound (Read.remember name node) := by
  unfold Read.remember
  split
  · exact pure _
  · exact (checkAnchor _).bind fun _ => (change _).bind fun _ => pure _

end IsSound

open IsSound (fail change accept expect at? peek)

/-- All readers within a bound are sound. -/
structure ReadersSound (fuel : Nat) : Prop where
  node (position : Read.Position) : IsSound (Read.node position fuel)
  content (position : Read.Position) (anchor : Option (List Char)) (tag : Option Tag) :
    IsSound (Read.content position anchor tag fuel)
  nodeUnless (ends : List Token) (position : Read.Position) : IsSound (Read.nodeUnless ends position fuel)
  blockItems : IsSound (Read.blockItems fuel)
  looseItems : IsSound (Read.looseItems fuel)
  blockPairs : IsSound (Read.blockPairs fuel)
  blockValue : IsSound (Read.blockValue fuel)
  flowValue (close : Token) : IsSound (Read.flowValue close fuel)
  flowItems (isFirst : Bool) : IsSound (Read.flowItems isFirst fuel)
  flowPairs (isFirst : Bool) : IsSound (Read.flowPairs isFirst fuel)

theorem readersSound (fuel : Nat) : ReadersSound fuel := by
  induction fuel with
  | zero =>
    exact ⟨fun _ => fail, fun _ _ _ => fail, fun _ _ => fail, fail, fail, fail, fail, fun _ => fail, fun _ => fail,
      fun _ => fail⟩
  | succ fuel ih =>
    constructor
    case node =>
      intro position
      unfold Read.node
      refine peek.bind fun token => ?_
      split
      · exact (change _).bind fun _ => .aliased _
      · refine IsSound.properties.bind fun (anchor, tag) => peek.discard.bind fun _ => ?_
        exact (IsSound.checkAnchor _).bind fun _ => (ih.content _ _ _).bind fun _ => .remember _ _
    case content =>
      intro position anchor tag
      unfold Read.content
      refine peek.bind fun token => ?_
      split
      · exact ih.looseItems.bind fun _ => .pure _
      · exact (change _).bind fun _ => .pure _
      · exact (change _).bind fun _ => (ih.flowItems true).bind fun _ => .pure _
      · exact (change _).bind fun _ => (ih.flowPairs true).bind fun _ => .pure _
      · exact (change _).bind fun _ => ih.blockItems.bind fun _ => .pure _
      · exact (change _).bind fun _ => ih.blockItems.bind fun _ => .pure _
      · exact (change _).bind fun _ => ih.blockPairs.bind fun _ => .pure _
      · exact (change _).bind fun _ => ih.blockPairs.bind fun _ => .pure _
      · exact .ite (.pure _) fail
    case nodeUnless =>
      intro ends position
      unfold Read.nodeUnless
      exact (at? _).bind fun _ => .ite (.pure _) (ih.node _)
    case blockItems =>
      unfold Read.blockItems
      refine (accept _).bind fun _ => .ite ?_ ((expect _).bind fun _ => .pure _)
      exact (ih.nodeUnless _ _).bind fun _ => ih.blockItems.bind fun _ => .pure _
    case looseItems =>
      unfold Read.looseItems
      refine (accept _).bind fun _ => .ite ?_ (.pure _)
      exact (ih.nodeUnless _ _).bind fun _ => ih.looseItems.bind fun _ => .pure _
    case blockPairs =>
      unfold Read.blockPairs
      refine (accept _).bind fun _ => .ite ?_ ((expect _).bind fun _ => .pure _)
      exact (ih.nodeUnless _ _).bind fun _ => ih.blockValue.bind fun _ => ih.blockPairs.bind fun _ => .pure _
    case blockValue =>
      unfold Read.blockValue
      exact (accept _).bind fun _ => .ite (ih.nodeUnless _ _) (.pure _)
    case flowValue =>
      intro close
      unfold Read.flowValue
      exact (accept _).bind fun _ => .ite (ih.nodeUnless _ _) (.pure _)
    case flowItems =>
      intro isFirst
      unfold Read.flowItems
      refine (accept _).bind fun _ => .ite (.pure _) (.behindComma fun _ => (accept _).bind fun _ => ?_)
      have hitem (item : Node) : IsSound (do return item :: (← Read.flowItems false fuel) : Read (List Node)) :=
        (ih.flowItems false).bind fun _ => .pure _
      refine .ite (.pure _) ((accept _).bind fun _ => .ite ?_ ((ih.node _).bind hitem))
      exact (ih.nodeUnless _ _).bind fun _ => (ih.flowValue _).bind fun _ => (IsSound.pure _).bind hitem
    case flowPairs =>
      intro isFirst
      unfold Read.flowPairs
      refine (accept _).bind fun _ => .ite (.pure _) (.behindComma fun _ => (accept _).bind fun _ => ?_)
      have hpair (pair : Node × Node) :
          IsSound (do return pair :: (← Read.flowPairs false fuel) : Read (List (Node × Node))) :=
        (ih.flowPairs false).bind fun _ => .pure _
      refine .ite (.pure _) ((accept _).bind fun _ => .ite ?_ ?_)
      · exact (ih.nodeUnless _ _).bind fun _ => (ih.flowValue _).bind fun _ => (IsSound.pure _).bind hpair
      · exact (ih.node _).bind fun _ => (IsSound.pure _).bind hpair

theorem isSound_declarations (isVersioned : Bool) (fuel : Nat) : IsSound (Read.declarations isVersioned fuel) := by
  induction fuel generalizing isVersioned with
  | zero => exact fail
  | succ fuel ih =>
    unfold Read.declarations
    refine peek.bind fun token => ?_
    split
    · exact (change _).bind fun _ => .ite (fail.bind fun _ => ih true) (ih true)
    · refine (change _).bind fun _ => IsSound.get.bind fun o => .ite (fail.bind fun _ => ?_) ?_
      · exact (change _).bind fun _ => ih _
      · exact (change _).bind fun _ => ih _
    · exact (change _).bind fun _ => ih _
    · exact .pure _

theorem isSound_document (fuel : Nat) : IsSound (Read.document fuel) := by
  have hexplicit : IsSound (Read.explicitDocument fuel) := by
    refine (isSound_declarations false fuel).bind fun _ => (expect _).bind fun _ => (change _).bind fun _ =>
      peek.bind fun token => ?_
    split
    · exact .pure _
    · exact .pure _
    · exact .pure _
    · exact .pure _
    · exact (readersSound fuel).node _
  have himplicit : IsSound (Read.implicitDocument fuel) := (change _).bind fun _ => (readersSound fuel).node _
  have hend (node : Node) : IsSound (do
      Read.skipEnds
      if (← Read.peek).isSome then Read.fail else return some node : Read (Option Node)) :=
    (change _).bind fun _ => peek.bind fun _ => .ite fail (.pure _)
  refine peek.bind fun token => ?_
  split
  · exact .pure _
  · split
    · exact hexplicit.bind hend
    · exact hexplicit.bind hend
    · exact himplicit.bind hend

/-- Reading data fails with a fault of data. -/
theorem failsBy_load (text : List Char) : FailsBy Fault.IsOfData (load text) := by
  have hnode : FailsBy Fault.IsOfData (node? text) := by
    refine FailsBy.map (isSound_document _ _) _
  refine hnode.bind fun found => ?_
  split
  · exact .ok _
  · exact (failsBy_value 0 _).mapError fun _ h => h

end Yaml

end Transclusion

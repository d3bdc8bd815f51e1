import Transclusion.Proofs.Evaluations
import Transclusion.Template.Play

/-! Places that a run of a template comes to.

A place is what is left to run, together with what is seen there and the options in
force. A run goes from place to place in two ways (`Reaches`): past a part, with
whatever that part may come to, and into a body that a part opens (`Opens`, one
constructor a way of opening one). It begins at the start of the template, and anew at
the body of every macro that is called (`Begins`). What is included counts with any text
that it might give, so more places are reached here than by any single run. None is
missed: whatever a run asks to have included, it asks for at a directive that it reaches
from a beginning, and hands over all that is seen there (`asks_renderWith`). A part by
itself asks only where its body does or a call does (`reaches_of_asks`); of the calls the
innermost one that asks is taken (`asks_call`). -/
namespace Transclusion

namespace Inclusion.Script
open Directive

variable {α β : Type}

/-- A script comes to a result, for some scopes that it may read and some texts that it may be given. -/
inductive Comes : Script α → α → Prop
  | done (a : α) : Comes (.done a) a
  | look {next : Scope → Script α} {a : α} (scope : Scope) : Comes (next scope) a → Comes (.look next) a
  | bind_ {name : String} {value : Value} {next : Script α} {a : α} :
      Comes next a → Comes (.bind_ name value next) a
  | call {invocation : Invocation} {frame : Option Bindings} {next : String → Script α} {a : α}
      (text : String) : Comes (next text) a → Comes (.call invocation frame next) a

/-- A script asks for an inclusion within a layer, on the way to some result. -/
inductive Asks (invocation : Invocation) (frame : Option Bindings) : Script α → Prop
  | here (next : String → Script α) : Asks invocation frame (.call invocation frame next)
  | look {next : Scope → Script α} (scope : Scope) :
      Asks invocation frame (next scope) → Asks invocation frame (.look next)
  | bind_ {name : String} {value : Value} {next : Script α} :
      Asks invocation frame next → Asks invocation frame (.bind_ name value next)
  | call {other : Invocation} {layer : Option Bindings} {next : String → Script α} (text : String) :
      Asks invocation frame (next text) → Asks invocation frame (.call other layer next)

theorem comes_pure {a b : α} : (pure a : Script α).Comes b ↔ b = a := by
  constructor
  · intro h
    cases h with
    | done a => rfl
  · rintro rfl
    exact .done b

theorem not_comes_fail {fault : Fault} {a : α} : ¬(Script.fail fault).Comes a := nofun

theorem comes_ofExcept {e : Except Fault α} {a : α} : (ofExcept e).Comes a ↔ e = .ok a := by
  cases e with
  | error fault => exact ⟨fun h => (not_comes_fail h).elim, nofun⟩
  | ok b => exact comes_pure.trans ⟨fun h => h ▸ rfl, fun h => (Except.ok.inj h).symm⟩

/-- A script in two parts comes to what the second comes to with a result of the first. -/
theorem comes_bind {s : Script α} {f : α → Script β} {b : β} :
    (s >>= f).Comes b ↔ ∃ a, s.Comes a ∧ (f a).Comes b := by
  show (s.andThen f).Comes b ↔ _
  constructor
  · intro h
    induction s with
    | done a => exact ⟨a, .done a, h⟩
    | fail fault => exact (not_comes_fail h).elim
    | look next ih =>
      cases h with
      | look scope h =>
        obtain ⟨a, ha, hb⟩ := ih scope h
        exact ⟨a, .look scope ha, hb⟩
    | bind_ name value next ih =>
      cases h with
      | bind_ h =>
        obtain ⟨a, ha, hb⟩ := ih h
        exact ⟨a, .bind_ ha, hb⟩
    | call invocation frame next ih =>
      cases h with
      | call text h =>
        obtain ⟨a, ha, hb⟩ := ih text h
        exact ⟨a, .call text ha, hb⟩
  · rintro ⟨a, ha, hb⟩
    induction ha with
    | done a => exact hb
    | look scope _ ih => exact .look scope (ih hb)
    | bind_ _ ih => exact .bind_ (ih hb)
    | call text _ ih => exact .call text (ih hb)

section
variable {invocation : Invocation} {frame : Option Bindings}

theorem not_asks_ofExcept {e : Except Fault α} : ¬(ofExcept e).Asks invocation frame := by
  cases e <;> nofun

theorem not_asks_pure {a : α} : ¬(pure a : Script α).Asks invocation frame := nofun

/-- In two parts, one or the other asks. -/
theorem asks_bind {s : Script α} {f : α → Script β} (h : (s >>= f).Asks invocation frame) :
    s.Asks invocation frame ∨ ∃ a, s.Comes a ∧ (f a).Asks invocation frame := by
  replace h : (s.andThen f).Asks invocation frame := h
  induction s with
  | done a => exact .inr ⟨a, .done a, h⟩
  | fail fault => exact nomatch h
  | look next ih =>
    cases h with
    | look scope h => exact (ih scope h).imp (.look scope) fun ⟨a, ha, hf⟩ => ⟨a, .look scope ha, hf⟩
  | bind_ name value next ih =>
    cases h with
    | bind_ h => exact (ih h).imp .bind_ fun ⟨a, ha, hf⟩ => ⟨a, .bind_ ha, hf⟩
  | call other layer next ih =>
    cases h with
    | here _ => exact .inl (.here next)
    | call text h => exact (ih text h).imp (.call text) fun ⟨a, ha, hf⟩ => ⟨a, .call text ha, hf⟩

/-- If the first part does not ask, the second does. -/
theorem asks_bind_right {s : Script α} {f : α → Script β} (h : (s >>= f).Asks invocation frame)
    (hs : ¬s.Asks invocation frame) : ∃ a, s.Comes a ∧ (f a).Asks invocation frame :=
  (asks_bind h).resolve_left hs

/-- If the second part does not ask, the first does. -/
theorem asks_bind_left {s : Script α} {f : α → Script β} (h : (s >>= f).Asks invocation frame)
    (hf : ∀ a, ¬(f a).Asks invocation frame) : s.Asks invocation frame :=
  (asks_bind h).resolve_right fun ⟨a, _, ha⟩ => hf a ha

theorem not_asks_bind {s : Script α} {f : α → Script β} (hs : ¬s.Asks invocation frame)
    (hf : ∀ a, ¬(f a).Asks invocation frame) : ¬(s >>= f).Asks invocation frame :=
  fun h => hs (asks_bind_left h hf)

/-- A result that is only made into another asks for nothing. -/
theorem not_asks_result {x : Except Fault α} {f : α → β} :
    ¬(ofExcept x >>= fun a => pure (f a)).Asks invocation frame :=
  not_asks_bind not_asks_ofExcept fun _ => not_asks_pure

end

end Inclusion.Script

namespace Template
open Directive Inclusion Inclusion.Script

/-! ### Expressions -/

section
variable {invocation : Invocation} {frame : Option Bindings}

/-- No call asks for the inclusion. -/
def Recourse.Silent (r : Recourse) (invocation : Invocation) (frame : Option Bindings) : Prop :=
  ∀ autoescape v g, ¬(r.call autoescape v g).Asks invocation frame

/-- An expression asks for what calls in it ask for. -/
theorem composes_not_asks : Composes fun t => ¬t.Asks invocation frame := ⟨fun _ => not_asks_ofExcept, not_asks_bind⟩

end

namespace Compiled

/-! ### Reaching a place -/

/-- A part opens a body, with what is seen and which options are in force there. -/
inductive Opens (r : Recourse) (c : Compiled) (o : Options) (env : Env) :
    Part → Options → Env → List Part → Prop
  | body {test : Expr} {body further otherwise : List Part} : (c.test r o env test).Comes true →
      Opens r c o env (.choice test body further otherwise) o env body
  | further {test test' : Expr} {body otherwise before body' further' otherwise' after : List Part} :
      (c.test r o env test).Comes false → (c.playFirst r o env before).Comes none →
      (c.test r o env test').Comes true →
      Opens r c o env
        (.choice test body (before ++ .choice test' body' further' otherwise' :: after) otherwise) o env body'
  | otherwise {test : Expr} {body further otherwise : List Part} : (c.test r o env test).Comes false →
      (c.playFirst r o env further).Comes none →
      Opens r c o env (.choice test body further otherwise) o env otherwise
  | round {target : Target} {range : Expr} {test : Option Expr} {isRecursive : Bool}
      {body otherwise : List Part} {v : Value} {found items : List Value} {round : Nat} {item : Value}
      {bound : Bindings} : (c.value r o env range).Comes v → o.itemsOf v = .ok found → item ∈ found →
      (c.holds r o env target test item).Comes true → items[round]? = some item →
      target.bind o item = .ok bound →
      Opens r c o env (.loop target range test isRecursive body otherwise) o
        (env.enter (loopSymbols env.slotNames target isRecursive body otherwise)
          ((loopName, .loop items round) :: bound) .loop) body
  | noRound {target : Target} {range : Expr} {test : Option Expr} {isRecursive : Bool}
      {body otherwise : List Part} {v : Value} {found : List Value} :
      (c.value r o env range).Comes v → o.itemsOf v = .ok found →
      Opens r c o env (.loop target range test isRecursive body otherwise) o
        (env.within (regionSymbols env.slotNames otherwise)) otherwise
  | assigned (target : Target) (e : Expr) (body : List Part) :
      Opens r c o env (.assignRegion target e body) o (env.within (regionSymbols env.slotNames body)) body
  | targeted {targets : List Target} {items : List Expr} {body : List Part} {values : List Value}
      {bound : Bindings} : (c.values r o env items).Comes values → bindTargets o targets values = .ok bound →
      Opens r c o env (.scoped targets items body) o
        (env.enter (scopedSymbols env.slotNames targets body) bound .region) body
  | escaping {e : Expr} {body : List Part} {v : Value} :
      (c.value r o (env.within (escapingSymbols env.slotNames e body)) e).Comes v →
      Opens r c o env (.escaping e body) { o with autoescape := v.isTruthy }
        (env.within (escapingSymbols env.slotNames e body)) body
  | filtered (e : Expr) (body : List Part) :
      Opens r c o env (.filtered e body) o (env.within (filteredSymbols env.slotNames e body)) body
  | block (name : String) (isScoped : Bool) (line : Nat) (body : List Part) :
      Opens r c o env (.block name isScoped false line body) o
        ((env.around isScoped).enter (blockSymbols body)
          [(selfName, c.reference), (parentName, parentless name)] .block) body

/-- From one place a run reaches another. -/
inductive Reaches (r : Recourse) (c : Compiled) (o' : Options) (env' : Env) (parts' : List Part) :
    Options → Env → List Part → Prop
  | here : Reaches r c o' env' parts' o' env' parts'
  | past {o : Options} {env env₁ : Env} {part : Part} {rest : List Part} {text : String} :
      (c.play r o env part).Comes (text, env₁) → Reaches r c o' env' parts' o env₁ rest →
      Reaches r c o' env' parts' o env (part :: rest)
  | into {o o₁ : Options} {env env₁ : Env} {part : Part} {body rest : List Part} :
      Opens r c o env part o₁ env₁ body → Reaches r c o' env' parts' o₁ env₁ body →
      Reaches r c o' env' parts' o env (part :: rest)

section Asking
variable {r : Recourse} {c : Compiled} {o : Options} {env : Env} {invocation : Invocation}
  {frame : Option Bindings}

section
variable (hr : r.Silent invocation frame)
include hr

theorem silent_sight {text : String} (v : Value) (g : Given) :
    ¬((c.sight r o env text).call v g).Asks invocation frame := hr _ _ _

theorem not_asks_valueOfText {e : Expr} {text : String} :
    ¬(c.valueOfText r o env e text).Asks invocation frame := composes_not_asks.eval (silent_sight hr) e

theorem not_asks_value {e : Expr} : ¬(c.value r o env e).Asks invocation frame := not_asks_valueOfText hr

theorem not_asks_values {items : List Expr} : ¬(c.values r o env items).Asks invocation frame :=
  composes_not_asks.evalAll (silent_sight hr) items

theorem not_asks_test {e : Expr} : ¬(c.test r o env e).Asks invocation frame :=
  not_asks_bind (not_asks_value hr) fun _ => not_asks_ofExcept

theorem not_asks_load {e : Expr} {isChoice isOptional : Bool} :
    ¬(c.load r o env e isChoice isOptional).Asks invocation frame := by
  refine not_asks_bind (not_asks_value hr) fun v => not_asks_bind not_asks_ofExcept fun fault => ?_
  cases fault with
  | some fault => exact nofun
  | none => exact not_asks_pure

theorem not_asks_holds {target : Target} {test : Option Expr} {item : Value} :
    ¬(c.holds r o env target test item).Asks invocation frame := by
  cases test with
  | none => exact not_asks_pure
  | some e => exact not_asks_bind not_asks_ofExcept fun bound => not_asks_test hr

end

/-- A loop asks in one of its rounds. -/
theorem asks_rounds {holds : Value → Script Bool} {body : Env → Script (String × Env)} {enter : Bindings → Env}
    {target : Target} {before rest : List Value} (hholds : ∀ item, ¬(holds item).Asks invocation frame)
    (h : (rounds holds body enter o target before rest).Asks invocation frame) :
    ∃ items round item bound, item ∈ rest ∧ (holds item).Comes true ∧ items[round]? = some item ∧
      target.bind o item = .ok bound ∧
      (body (enter ((loopName, .loop items round) :: bound))).Asks invocation frame := by
  induction rest generalizing before with
  | nil => exact (not_asks_pure h).elim
  | cons item rest ih =>
    have further {before : List Value} (h : (rounds holds body enter o target before rest).Asks invocation frame) :
        ∃ items round next bound, next ∈ item :: rest ∧ (holds next).Comes true ∧ items[round]? = some next ∧
          target.bind o next = .ok bound ∧
          (body (enter ((loopName, .loop items round) :: bound))).Asks invocation frame := by
      obtain ⟨items, round, next, bound, hnext, hround⟩ := ih h
      exact ⟨items, round, next, bound, List.mem_cons_of_mem item hnext, hround⟩
    obtain ⟨isRound, hround, h⟩ := asks_bind_right h (hholds item)
    cases isRound with
    | false => exact further h
    | true =>
      obtain ⟨bound, hbound, h⟩ := asks_bind_right h not_asks_ofExcept
      rcases asks_bind h with h | ⟨result, -, h⟩
      · exact ⟨_, before.length, item, bound, List.mem_cons_self .., hround, by simp, comes_ofExcept.1 hbound, h⟩
      · exact further (asks_bind_left h fun _ => not_asks_pure)

variable (r c invocation frame) in
/-- From a place a run reaches the directive of an invocation, where a layer holds all that is seen. -/
def ReachesDirective (o : Options) (env : Env) (parts : List Part) : Prop :=
  ∃ o' env' tag markup rest, c.Reaches r o' env' (.directive tag markup :: rest) o env parts ∧
    frame = some env'.visible ∧ r.invocation tag markup = .ok invocation

theorem ReachesDirective.into {o₁ : Options} {env₁ : Env} {part : Part} {body : List Part}
    (h : c.ReachesDirective r invocation frame o₁ env₁ body) (hopens : c.Opens r o env part o₁ env₁ body)
    (rest : List Part) : c.ReachesDirective r invocation frame o env (part :: rest) := by
  obtain ⟨o', env', tag, markup, more, hreaches, hdirective⟩ := h
  exact ⟨o', env', tag, markup, more, .into hopens hreaches, hdirective⟩

theorem ReachesDirective.past {env₁ : Env} {part : Part} {rest : List Part} {text : String}
    (h : c.ReachesDirective r invocation frame o env₁ rest) (hplay : (c.play r o env part).Comes (text, env₁)) :
    c.ReachesDirective r invocation frame o env (part :: rest) := by
  obtain ⟨o', env', tag, markup, more, hreaches, hdirective⟩ := h
  exact ⟨o', env', tag, markup, more, .past hplay hreaches, hdirective⟩

theorem asks_directive {tag : String} {markup : List Char}
    (h : (directive r o env tag markup).Asks invocation frame) :
    frame = some env.visible ∧ r.invocation tag markup = .ok invocation := by
  unfold directive at h
  dsimp only at h
  split at h
  · exact nomatch h
  · exact nomatch h
  · obtain ⟨found, hfound, h⟩ := asks_bind_right h not_asks_ofExcept
    split at h
    · cases h with
      | here _ => exact ⟨rfl, comes_ofExcept.1 hfound⟩
      | call text h => exact nomatch h
    · exact nomatch h

end Asking

section
variable {r : Recourse} {invocation : Invocation} {frame : Option Bindings}

mutual

/-- Unless a call asks for it, whatever a part asks for it asks for at a directive that is reached. -/
theorem reaches_of_asks_play (hr : r.Silent invocation frame) (c : Compiled) (o : Options)
    (env : Env) (rest : List Part) : (part : Part) → (c.play r o env part).Asks invocation frame →
    c.ReachesDirective r invocation frame o env (part :: rest)
  | .data text, h => (not_asks_pure h).elim
  | .print e, h => by
    simp only [play] at h
    obtain ⟨v, -, h⟩ := asks_bind_right h (not_asks_value hr)
    exact (not_asks_result h).elim
  | .directive tag markup, h => by
    simp only [play] at h
    have h := asks_directive (asks_bind_left h fun _ => not_asks_pure)
    exact ⟨o, env, tag, markup, rest, .here, h⟩
  | .assign target e, h => by
    simp only [play] at h
    split at h
    · exact nomatch h
    · obtain ⟨v, -, h⟩ := asks_bind_right h (not_asks_value hr)
      exact (not_asks_result h).elim
  | .assignRegion target e body, h => by
    simp only [play] at h
    rcases asks_bind h with h | ⟨⟨text, inner⟩, -, h⟩
    · exact (reaches_of_asks hr c o _ body h).into (.assigned target e body) rest
    · split at h
      · exact nomatch h
      · obtain ⟨v, -, h⟩ := asks_bind_right h (not_asks_valueOfText hr)
        exact (not_asks_result h).elim
  | .choice test body further otherwise, h => by
    simp only [play] at h
    obtain ⟨holds, htest, h⟩ := asks_bind_right h (not_asks_test hr)
    cases holds with
    | true => exact (reaches_of_asks hr c o env body h).into (.body htest) rest
    | false =>
      rcases asks_bind h with h | ⟨result, hfirst, h⟩
      · obtain ⟨before, test', body', further', otherwise', after, rfl, hnone, htest', h⟩ :=
          reaches_of_asks_playFirst hr c o env further h
        exact h.into (.further htest hnone htest') rest
      · cases result with
        | some result => exact (not_asks_pure h).elim
        | none => exact (reaches_of_asks hr c o env otherwise h).into (.otherwise htest hfirst) rest
  | .loop target range test isRecursive body otherwise, h => by
    simp only [play] at h
    obtain ⟨v, hv, h⟩ := asks_bind_right h (not_asks_value hr)
    obtain ⟨found, hfound, h⟩ := asks_bind_right h not_asks_ofExcept
    have hfound := comes_ofExcept.1 hfound
    rcases asks_bind h with h | ⟨⟨text, hasRounds⟩, -, h⟩
    · obtain ⟨items, round, item, bound, hitem, hholds, hround, hbound, h⟩ :=
        asks_rounds (fun _ => not_asks_holds hr) h
      exact (reaches_of_asks hr c o _ body h).into (.round hv hfound hitem hholds hround hbound) rest
    · cases hasRounds with
      | true => exact (not_asks_pure h).elim
      | false =>
        have h := asks_bind_left h fun _ => not_asks_pure
        exact (reaches_of_asks hr c o _ otherwise h).into (.noRound hv hfound) rest
  | .scoped targets items body, h => by
    simp only [play] at h
    obtain ⟨vs, hvs, h⟩ := asks_bind_right h (not_asks_values hr)
    obtain ⟨bound, hbound, h⟩ := asks_bind_right h not_asks_ofExcept
    have h := asks_bind_left h fun _ => not_asks_pure
    exact (reaches_of_asks hr c o _ body h).into (.targeted hvs (comes_ofExcept.1 hbound)) rest
  | .escaping e body, h => by
    simp only [play] at h
    obtain ⟨v, hv, h⟩ := asks_bind_right h (not_asks_value hr)
    have h := asks_bind_left h fun _ => not_asks_pure
    exact (reaches_of_asks hr c _ _ body h).into (.escaping hv) rest
  | .filtered e body, h => by
    simp only [play] at h
    rcases asks_bind h with h | ⟨⟨text, inner⟩, -, h⟩
    · exact (reaches_of_asks hr c o _ body h).into (.filtered e body) rest
    · obtain ⟨v, -, h⟩ := asks_bind_right h (not_asks_valueOfText hr)
      exact (not_asks_result h).elim
  | .block name isScoped isRequired line body, h => by
    simp only [play] at h
    cases isRequired with
    | true => exact nomatch h
    | false =>
      have h := asks_bind_left h fun _ => not_asks_pure
      exact (reaches_of_asks hr c o _ body h).into (.block name isScoped line body) rest
  | .inherit e line, h => by
    simp only [play] at h
    exact (not_asks_load hr (asks_bind_left h fun _ => not_asks_pure)).elim
  | .load e isChoice isOptional, h => by
    simp only [play] at h
    exact (not_asks_load hr (asks_bind_left h fun _ => not_asks_pure)).elim
  | .define name line parameters defaults body, h => (not_asks_pure h).elim
  | .calling e args line parameters defaults body, h => by
    simp only [play] at h
    obtain ⟨v, -, h⟩ := asks_bind_right h (not_asks_value hr)
    obtain ⟨given, -, h⟩ := asks_bind_right h (composes_not_asks.evalArguments (silent_sight hr) _ _ args)
    obtain ⟨w, -, h⟩ := asks_bind_right h (silent_sight hr _ _)
    exact (not_asks_result h).elim

/-- Unless a call asks for it, whatever a run of parts asks for it asks for at a directive that it reaches,
within a layer that holds all that is seen there. -/
theorem reaches_of_asks (hr : r.Silent invocation frame) (c : Compiled) (o : Options) (env : Env) :
    (parts : List Part) → (c.playAll r o env parts).Asks invocation frame →
    c.ReachesDirective r invocation frame o env parts
  | [], h => (not_asks_pure h).elim
  | part :: rest, h => by
    simp only [playAll] at h
    rcases asks_bind h with h | ⟨⟨text, env₁⟩, hplay, h⟩
    · exact reaches_of_asks_play hr c o env rest part h
    · have h := asks_bind_left h fun _ => not_asks_pure
      exact (reaches_of_asks hr c o env₁ rest h).past hplay

/-- So it is with the further branches of a choice. -/
theorem reaches_of_asks_playFirst (hr : r.Silent invocation frame) (c : Compiled) (o : Options) (env : Env) :
    (parts : List Part) → (c.playFirst r o env parts).Asks invocation frame →
    ∃ before test body further otherwise after, parts = before ++ .choice test body further otherwise :: after ∧
      (c.playFirst r o env before).Comes none ∧ (c.test r o env test).Comes true ∧
      c.ReachesDirective r invocation frame o env body
  | [], h => (not_asks_pure h).elim
  | part :: rest, h => by
    cases part with
    | choice test body further otherwise =>
      simp only [playFirst] at h
      obtain ⟨holds, htest, h⟩ := asks_bind_right h (not_asks_test hr)
      cases holds with
      | true =>
        have h := asks_bind_left h fun _ => not_asks_pure
        exact ⟨[], test, body, further, otherwise, rest, rfl, comes_pure.2 rfl, htest,
          reaches_of_asks hr c o env body h⟩
      | false =>
        obtain ⟨before, test', body', further', otherwise', after, rfl, hnone, h⟩ :=
          reaches_of_asks_playFirst hr c o env rest h
        refine ⟨.choice test body further otherwise :: before, test', body', further', otherwise', after, rfl,
          ?_, h⟩
        simp only [playFirst]
        exact comes_bind.2 ⟨false, htest, hnone⟩
    | _ =>
      simp only [playFirst] at h
      obtain ⟨before, test', body', further', otherwise', after, rfl, hnone, h⟩ :=
        reaches_of_asks_playFirst hr c o env rest h
      refine ⟨_ :: before, test', body', further', otherwise', after, rfl, ?_, h⟩
      simpa only [playFirst] using hnone

end

end

/-! ### Asking in calls -/

section
variable {invocation : Invocation} {frame : Option Bindings}

end

end Compiled

end Template

end Transclusion

import Transclusion.Template.Eval

/-! Evaluations.

Evaluating an expression puts scripts together: steps that may fault, and calls. So a
property of scripts that putting them together keeps (`Composes`) holds of an evaluation
as soon as it holds of every call (`Composes.eval`), and nothing else need be known of
expressions. -/
namespace Transclusion.Template

open Inclusion (Script)

/-- A property of scripts that holds where nothing is done and is kept when one is put behind another. -/
structure Composes (P : {α : Type} → Script α → Prop) : Prop where
  ofExcept {α : Type} (e : Except Fault α) : P (Script.ofExcept e)
  bind {α β : Type} {s : Script α} {f : α → Script β} : P s → (∀ a, P (f a)) → P (s >>= f)

namespace Composes

variable {P : {α : Type} → Script α → Prop} {o : Options} {s : Sight}

theorem pure (hP : Composes P) {α : Type} (a : α) : P (Pure.pure a : Script α) := hP.ofExcept (.ok a)

mutual

/-- An evaluation has a property that every call has. -/
theorem eval (hP : Composes P) (hcall : ∀ v g, P (s.call v g)) : (e : Expr) → P (e.eval o s)
  | .name n => hP.ofExcept _
  | .literal c => hP.pure _
  | .constant c e => hP.ofExcept _
  | .captured => hP.ofExcept _
  | .unmatched line => hP.ofExcept _
  | .list items => by
    simp only [Expr.eval]
    exact hP.bind (evalAll hP hcall items) fun _ => hP.pure _
  | .tuple items => by
    simp only [Expr.eval]
    exact hP.bind (evalAll hP hcall items) fun _ => hP.pure _
  | .dict entries => by
    simp only [Expr.eval]
    exact hP.bind (evalEntries hP hcall entries) fun _ => hP.ofExcept _
  | .member e name => by
    simp only [Expr.eval]
    exact hP.bind (eval hP hcall e) fun _ => hP.ofExcept _
  | .element e index => by
    simp only [Expr.eval]
    exact hP.bind (eval hP hcall e) fun _ => hP.bind (eval hP hcall index) fun _ => hP.ofExcept _
  | .slice e first last step => by
    simp only [Expr.eval]
    refine hP.bind (eval hP hcall e) fun _ => hP.bind (eval hP hcall first) fun _ => ?_
    exact hP.bind (eval hP hcall last) fun _ => hP.bind (eval hP hcall step) fun _ => hP.ofExcept _
  | .call e args => by
    simp only [Expr.eval]
    exact hP.bind (eval hP hcall e) fun v => hP.bind (evalArguments hP hcall _ _ args) fun given => hcall v given
  | .negation e => by
    simp only [Expr.eval]
    exact hP.bind (eval hP hcall e) fun _ => hP.bind (hP.ofExcept _) fun _ => hP.pure _
  | .signed isMinus e => by
    simp only [Expr.eval]
    exact hP.bind (eval hP hcall e) fun _ => hP.ofExcept _
  | .both a b => by
    simp only [Expr.eval]
    refine hP.bind (eval hP hcall a) fun _ => hP.bind (hP.ofExcept _) fun holds => ?_
    cases holds with
    | true => exact eval hP hcall b
    | false => exact hP.pure _
  | .either a b => by
    simp only [Expr.eval]
    refine hP.bind (eval hP hcall a) fun _ => hP.bind (hP.ofExcept _) fun holds => ?_
    cases holds with
    | true => exact hP.pure _
    | false => exact eval hP hcall b
  | .compare e others => by
    simp only [Expr.eval]
    exact hP.bind (eval hP hcall e) fun v => evalChain hP hcall v others
  | .binary op a b => by
    simp only [Expr.eval]
    exact hP.bind (eval hP hcall a) fun _ => hP.bind (eval hP hcall b) fun _ => hP.ofExcept _
  | .concat items => by
    simp only [Expr.eval]
    exact hP.bind (evalAll hP hcall items) fun _ => hP.ofExcept _
  | .conditional test e otherwise => by
    simp only [Expr.eval]
    refine hP.bind (eval hP hcall test) fun _ => hP.bind (hP.ofExcept _) fun holds => ?_
    cases holds with
    | true => exact eval hP hcall e
    | false => exact eval hP hcall otherwise
  | .filter e name args line => by
    simp only [Expr.eval]
    exact hP.bind (eval hP hcall e) fun _ => hP.bind (evalArguments hP hcall _ _ args) fun _ => hP.ofExcept _
  | .test e name args line => by
    simp only [Expr.eval]
    refine hP.bind (eval hP hcall e) fun _ => hP.bind (evalArguments hP hcall _ _ args) fun _ => ?_
    exact hP.bind (hP.ofExcept _) fun _ => hP.pure _

theorem evalAll (hP : Composes P) (hcall : ∀ v g, P (s.call v g)) :
    (items : List Expr) → P (Template.evalAll o s items)
  | [] => hP.pure _
  | e :: rest => by
    simp only [Template.evalAll]
    exact hP.bind (eval hP hcall e) fun _ => hP.bind (evalAll hP hcall rest) fun _ => hP.pure _

theorem evalEntries (hP : Composes P) (hcall : ∀ v g, P (s.call v g)) :
    (entries : List (Expr × Expr)) → P (Template.evalEntries o s entries)
  | [] => hP.pure _
  | (key, e) :: rest => by
    simp only [Template.evalEntries]
    refine hP.bind (eval hP hcall key) fun _ => hP.bind (eval hP hcall e) fun _ => ?_
    exact hP.bind (evalEntries hP hcall rest) fun _ => hP.pure _

theorem evalArguments (hP : Composes P) (hcall : ∀ v g, P (s.call v g)) (function : String) (given : Given) :
    (args : List (Passing × Expr)) → P (Template.evalArguments o s function given args)
  | [] => hP.pure _
  | (passing, e) :: rest => by
    simp only [Template.evalArguments]
    refine hP.bind (eval hP hcall e) fun _ => hP.bind (hP.ofExcept _) fun given => ?_
    exact evalArguments hP hcall function given rest

theorem evalChain (hP : Composes P) (hcall : ∀ v g, P (s.call v g)) (v : Value) :
    (others : List (Comparison × Expr)) → P (Template.evalChain o s v others)
  | [] => hP.pure _
  | (c, e) :: rest => by
    simp only [Template.evalChain]
    refine hP.bind (eval hP hcall e) fun w => hP.bind (hP.ofExcept _) fun holds => ?_
    cases holds with
    | true => exact evalChain hP hcall w rest
    | false => exact hP.pure _

end

end Composes

end Transclusion.Template

import Transclusion.Proofs.Environments
import Transclusion.Proofs.Executions

/-! Scripts that do alike.

Two scripts do alike if they take the same steps wherever they see the same
environment: neither binds a name in the scope, they include the same partials
within layers that bind the same, and end with related results or with the same
fault. A script that does as itself depends on the layers of its scope in nothing
but what they show together. -/
namespace Transclusion.Inclusion
open Directive

namespace Script

variable {α α' β β' : Type}

inductive Alike (R : α → β → Prop) : Script α → Script β → Prop
  | done {a : α} {b : β} : R a b → Alike R (.done a) (.done b)
  | fail (fault : Fault) : Alike R (.fail fault) (.fail fault)
  | look {next : Scope → Script α} {next' : Scope → Script β} :
      (∀ s t, s.flatten.Alike t.flatten → Alike R (next s) (next' t)) → Alike R (.look next) (.look next')
  | call {invocation : Invocation} {next : String → Script α} {next' : String → Script β} :
      (∀ text, Alike R (next text) (next' text)) →
      Alike R (.call invocation none next) (.call invocation none next')
  | callWithin {invocation : Invocation} {frame frame' : Bindings} {next : String → Script α}
      {next' : String → Script β} : frame.Alike frame' → (∀ text, Alike R (next text) (next' text)) →
      Alike R (.call invocation (some frame) next) (.call invocation (some frame') next')

namespace Alike

variable {R : α → β → Prop} {S : α' → β' → Prop}

theorem ofExcept (e : Except Fault α) : Alike Eq (ofExcept e) (ofExcept e) := by
  cases e with
  | error fault => exact .fail fault
  | ok a => exact .done rfl

theorem bind {s : Script α} {t : Script β} {f : α → Script α'} {g : β → Script β'} (h : Alike R s t)
    (hf : ∀ a b, R a b → Alike S (f a) (g b)) : Alike S (s >>= f) (t >>= g) := by
  show Alike S (s.andThen f) (t.andThen g)
  induction h with
  | done hab => exact hf _ _ hab
  | fail fault => exact .fail fault
  | look _ ih => exact .look ih
  | call _ ih => exact .call ih
  | callWithin hframe _ ih => exact .callWithin hframe ih

/-- With a first part that is one and the same. -/
theorem bind_eq {s : Script α} {t : Script α} {f : α → Script α'} {g : α → Script β'} (h : Alike Eq s t)
    (hf : ∀ a, Alike S (f a) (g a)) : Alike S (s >>= f) (t >>= g) :=
  h.bind fun a _ hab => hab ▸ hf a

/-- A script that does as another binds no name in the scope. -/
theorem readsOnly {s : Script α} {t : Script β} (h : Alike R s t) : s.ReadsOnly := by
  induction h with
  | done _ => exact .done _
  | fail fault => exact .fail fault
  | look _ ih => exact .look fun scope => ih scope scope (.refl scope.distinct_flatten)
  | call _ ih => exact .call ih
  | callWithin _ _ ih => exact .call ih

end Alike

end Script

end Transclusion.Inclusion

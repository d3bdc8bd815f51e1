import Transclusion.Proofs.Clerks
import Transclusion.Proofs.Evaluations
import Transclusion.Proofs.Frames
import Transclusion.Proofs.Scripts
import Transclusion.Template.Compile

/-! What a template sees.

Of the scope a template sees what its layers show together, once, at its start;
from there on it keeps books of its own, in its frames and in the variables that
it was given and has changed. Places that keep the same books (`Env.Alike`) give a
value that leaves them the same to take along (`Env.Alike.close_eq`), and go the
same way part by part, so that a macro does as itself wherever it is called
(`alike_call`), and a template wherever it sees the same environment
(`alike_script`). -/
namespace Transclusion.Template

namespace Env

/-- Two places keep the same books. -/
structure Alike (a b : Env) : Prop where
  frames : a.frames = b.frames
  given : a.given.Alike b.given
  changed : a.changed.Alike b.changed

theorem alike_reassign (slot : String → Option Value) (values : Bindings) {x y : Bindings}
    (h : x.Alike y) :
    (values.foldl (fun (changed : Bindings) (name, v) => changed.insert name ((slot name).getD v)) x).Alike
      (values.foldl (fun (changed : Bindings) (name, v) => changed.insert name ((slot name).getD v)) y) := by
  induction values generalizing x y with
  | nil => exact h
  | cons entry rest ih => exact ih (h.insert entry.1 _)

theorem alike_ofVariables {b b' : Bindings} (h : b.Alike b') : (ofVariables b).Alike (ofVariables b') where
  frames := rfl
  given := .update (.refl distinct_globals) h
  changed := .refl Bindings.distinct_nil

/-- The place around the body of a macro depends on what the macro has taken along alone. -/
theorem alike_reopened (layers : List Layer) (variables_ : Bindings) :
    (reopened layers variables_).Alike (reopened layers variables_) where
  frames := rfl
  given := .refl variables_.ordered_sorted.distinct
  changed := .refl Bindings.distinct_nil

namespace Alike

variable {a b : Env} (h : a.Alike b)
include h

theorem frameOf?_eq (name : String) : a.frameOf? name = b.frameOf? name := by
  simp only [frameOf?, h.frames]

theorem slot_eq (name : String) : a.slot name = b.slot name := by
  simp only [slot, h.frameOf?_eq]

theorem slotNames_eq : a.slotNames = b.slotNames := by
  simp only [slotNames, h.frames]

theorem valueOf_eq (name : String) : a.valueOf name = b.valueOf name := by
  simp only [valueOf, h.slot_eq, h.frameOf?_eq]

theorem resolve_eq (name : String) : a.resolve name = b.resolve name := by
  simp only [resolve, h.changed.same, h.given.same]

theorem filled_eq : a.filled = b.filled := by
  funext f entry
  obtain ⟨name, load⟩ := entry
  cases load <;> simp only [filled, h.resolve_eq, h.slot_eq]

theorem enter (s : Symbols) (values : Bindings) (kind : FrameKind) :
    (a.enter s values kind).Alike (b.enter s values kind) where
  frames := by simp only [Env.enter, h.filled_eq, h.frames]
  given := h.given
  changed := h.changed

theorem within (s : Symbols) : (a.within s).Alike (b.within s) := h.enter s [] .region

theorem put (name : String) (v : Value) : (a.put name v).Alike (b.put name v) := by
  unfold Env.put
  rw [h.frames]
  cases hb : b.frames with
  | nil => exact h
  | cons frame outer => exact ⟨rfl, h.given, h.changed⟩

theorem putAll (values : Bindings) :
    (values.foldl (fun (env : Env) (name, v) => env.put name v) a).Alike
      (values.foldl (fun (env : Env) (name, v) => env.put name v) b) := by
  induction values generalizing a b with
  | nil => exact h
  | cons entry rest ih => exact ih (h.put entry.1 entry.2)

theorem assign (values : Bindings) : (a.assign values).Alike (b.assign values) := by
  have hput := h.putAll values
  unfold Env.assign
  simp only [hput.frames]
  split
  · refine ⟨rfl, hput.given, ?_⟩
    simp only [hput.slot_eq]
    exact alike_reassign _ values hput.changed
  · exact hput

theorem locals_eq : a.locals = b.locals := by
  simp only [locals, h.frames, h.slot_eq]

theorem variables_ : a.variables_.Alike b.variables_ := h.given.update h.changed

theorem captured_eq : a.captured = b.captured := by
  funext level
  rw [captured, captured, h.frames, h.variables_.sorted_eq]

/-- A value takes the same along from either place. -/
theorem close_eq : a.close = b.close := by
  funext v
  rw [close, close, h.captured_eq]

theorem closeAll_eq : a.closeAll = b.closeAll := by
  funext values
  rw [closeAll, closeAll, h.close_eq]

theorem visible : a.visible.Alike b.visible := by
  unfold Env.visible
  rw [h.locals_eq, h.closeAll_eq]
  exact (h.variables_.updateBoth _).map _

theorem around (isScoped : Bool) : (a.around isScoped).Alike (b.around isScoped) := by
  refine ⟨rfl, ?_, .refl Bindings.distinct_nil⟩
  cases isScoped with
  | true => exact h.visible
  | false =>
    show (a.closeAll a.variables_).Alike (b.closeAll b.variables_)
    rw [h.closeAll_eq]
    exact h.variables_.map _

end Alike

end Env

open Inclusion (Clerk Script)

/-! ### Parts -/

theorem composes_alike : Composes fun s => Script.Alike Eq s s := ⟨.ofExcept, .bind_eq⟩

/-- Calls do as themselves. -/
def Recourse.Alike (r : Recourse) : Prop :=
  ∀ autoescape v g, Script.Alike Eq (r.call autoescape v g) (r.call autoescape v g)

namespace Compiled

/-- Two results of a part: the same text, and places that keep the same books. -/
def SameResult (x y : String × Env) : Prop := x.1 = y.1 ∧ x.2.Alike y.2

section Parts
variable {r : Recourse} (c : Compiled) (o : Options) {a b : Env}

theorem sight_eq (h : a.Alike b) (text : String) : c.sight r o a text = c.sight r o b text := by
  have hvalue : a.valueOf = b.valueOf := funext h.valueOf_eq
  have hleaving : leaving a = leaving b := by
    funext g
    rw [leaving, leaving, h.close_eq, h.closeAll_eq]
  rw [sight, sight, hvalue, hleaving, h.close_eq]

theorem test_eq (h : a.Alike b) (e : Expr) : c.test r o a e = c.test r o b e := by
  simp only [test, value, c.sight_eq o h]

theorem holds_eq (h : a.Alike b) (target : Target) (test : Option Expr) :
    c.holds r o a target test = c.holds r o b target test := by
  funext item
  cases test with
  | none => rfl
  | some e => simp only [holds, h.slotNames_eq, c.test_eq o (h.enter ..)]

section
variable (hr : r.Alike) (h : a.Alike b)
include hr h

theorem alike_valueOfText (e : Expr) (text : String) :
    Script.Alike Eq (c.valueOfText r o a e text) (c.valueOfText r o b e text) := by
  rw [valueOfText, valueOfText, c.sight_eq o h]
  exact composes_alike.eval (fun _ _ => hr ..) e

theorem alike_value (e : Expr) : Script.Alike Eq (c.value r o a e) (c.value r o b e) :=
  c.alike_valueOfText o hr h e ""

theorem alike_values (items : List Expr) :
    Script.Alike Eq (c.values r o a items) (c.values r o b items) := by
  rw [values, values, c.sight_eq o h]
  exact composes_alike.evalAll (fun _ _ => hr ..) items

theorem alike_test (e : Expr) : Script.Alike Eq (c.test r o a e) (c.test r o b e) :=
  (c.alike_value o hr h e).bind_eq fun _ => .ofExcept _

omit hr in
theorem alike_directive (tag : String) (markup : List Char) :
    Script.Alike Eq (directive r o a tag markup) (directive r o b tag markup) := by
  unfold directive
  simp only [h.visible.same]
  split
  · exact .fail _
  · exact .fail _
  · refine (Script.Alike.ofExcept _).bind_eq fun invocation => ?_
    split
    · exact .callWithin h.visible fun text => .done rfl
    · exact .fail _

theorem alike_load (e : Expr) (isChoice isOptional : Bool) :
    Script.Alike Eq (c.load r o a e isChoice isOptional) (c.load r o b e isChoice isOptional) := by
  refine (c.alike_value o hr h e).bind_eq fun v => ?_
  refine (Script.Alike.ofExcept _).bind_eq fun fault => ?_
  cases fault with
  | some fault => exact .fail fault
  | none => exact .done rfl

theorem alike_holds (target : Target) (test : Option Expr) (item : Value) :
    Script.Alike Eq (c.holds r o a target test item) (c.holds r o b target test item) := by
  cases test with
  | none => exact .done rfl
  | some e =>
    simp only [holds, h.slotNames_eq]
    exact (Script.Alike.ofExcept _).bind_eq fun bound => c.alike_test o hr (h.enter ..) e

end

/-- The rounds of a loop, if the test on its items and the body do alike. -/
theorem alike_rounds {holds : Value → Script Bool} {body : Env → Script (String × Env)}
    {enter enter' : Bindings → Env} (hholds : ∀ item, Script.Alike Eq (holds item) (holds item))
    (hbody : ∀ a b, Env.Alike a b → Script.Alike SameResult (body a) (body b))
    (henter : ∀ bound, (enter bound).Alike (enter' bound)) (target : Target) (before rest : List Value) :
    Script.Alike Eq (rounds holds body enter o target before rest)
      (rounds holds body enter' o target before rest) := by
  induction rest generalizing before with
  | nil => exact .done rfl
  | cons item rest ih =>
    refine (hholds item).bind_eq fun isRound => ?_
    cases isRound with
    | true =>
      refine (Script.Alike.ofExcept _).bind_eq fun bound => ?_
      refine (hbody _ _ (henter _)).bind fun x y hxy => ?_
      exact (ih _).bind_eq fun more => .done (by rw [hxy.1])
    | false => exact ih before

end Parts

section
variable {r : Recourse}

mutual

/-- From places that keep the same books a part does alike. -/
theorem alike_play (hr : r.Alike) (c : Compiled) (o : Options) {a b : Env} (h : a.Alike b) :
    (part : Part) → Script.Alike SameResult (c.play r o a part) (c.play r o b part)
  | .data text => .done ⟨rfl, h⟩
  | .print e => by
    simp only [play]
    refine (c.alike_value o hr h e).bind_eq fun v => ?_
    exact (Script.Alike.ofExcept _).bind_eq fun text => .done ⟨rfl, h⟩
  | .directive tag markup => by
    simp only [play]
    exact (alike_directive o h tag markup).bind_eq fun text => .done ⟨rfl, h⟩
  | .assign target e => by
    simp only [play]
    split
    · exact .fail _
    · refine (c.alike_value o hr h e).bind_eq fun v => ?_
      exact (Script.Alike.ofExcept _).bind_eq fun bound => .done ⟨rfl, h.assign bound⟩
  | .assignRegion target e body => by
    simp only [play, h.slotNames_eq]
    refine (alike_playAll hr c o (h.within _) body).bind fun x y hxy => ?_
    split
    · exact .fail _
    · rw [hxy.1]
      refine (c.alike_valueOfText o hr hxy.2 e y.1).bind_eq fun v => ?_
      exact (Script.Alike.ofExcept _).bind_eq fun bound => .done ⟨rfl, h.assign bound⟩
  | .choice test body further otherwise => by
    simp only [play]
    refine (c.alike_test o hr h test).bind_eq fun holds => ?_
    cases holds with
    | true => exact alike_playAll hr c o h body
    | false =>
      refine (alike_playFirst hr c o h further).bind fun x y hxy => ?_
      cases hxy with
      | none => exact alike_playAll hr c o h otherwise
      | some hxy => exact .done hxy
  | .loop target range test isRecursive body otherwise => by
    simp only [play, h.slotNames_eq, c.holds_eq o h]
    refine (c.alike_value o hr h range).bind_eq fun v => ?_
    refine (Script.Alike.ofExcept _).bind_eq fun found => ?_
    have hholds (item : Value) : Script.Alike Eq (c.holds r o b target test item) _ :=
      c.holds_eq o h target test ▸ c.alike_holds o hr h target test item
    have hrounds := alike_rounds o hholds
      (fun _ _ h => alike_playAll hr c o h body) (fun bound => h.enter
        (loopSymbols b.slotNames target isRecursive body otherwise) bound .loop) target [] found
    refine hrounds.bind_eq fun result => ?_
    split
    · exact .done ⟨rfl, h⟩
    · exact (alike_playAll hr c o (h.within _) otherwise).bind fun x y hxy => .done ⟨hxy.1, h⟩
  | .scoped targets items body => by
    simp only [play, h.slotNames_eq]
    refine (c.alike_values o hr h items).bind_eq fun vs => ?_
    refine (Script.Alike.ofExcept _).bind_eq fun bound => ?_
    exact (alike_playAll hr c o (h.enter ..) body).bind fun x y hxy => .done ⟨hxy.1, h⟩
  | .escaping e body => by
    simp only [play, h.slotNames_eq]
    refine (c.alike_value o hr (h.within _) e).bind_eq fun v => ?_
    exact (alike_playAll hr c _ (h.within _) body).bind fun x y hxy => .done ⟨hxy.1, h⟩
  | .filtered e body => by
    simp only [play, h.slotNames_eq]
    refine (alike_playAll hr c o (h.within _) body).bind fun x y hxy => ?_
    rw [hxy.1]
    refine (c.alike_valueOfText o hr hxy.2 e y.1).bind_eq fun v => ?_
    exact (Script.Alike.ofExcept _).bind_eq fun text => .done ⟨rfl, h⟩
  | .block name isScoped isRequired line body => by
    simp only [play]
    split
    · exact .fail _
    · exact (alike_playAll hr c o ((h.around isScoped).enter ..) body).bind fun x y hxy =>
        .done ⟨hxy.1, h⟩
  | .inherit e line => by
    simp only [play]
    exact (c.alike_load o hr h e false false).bind_eq fun _ => .done ⟨rfl, h⟩
  | .load e isChoice isOptional => by
    simp only [play]
    exact (c.alike_load o hr h e isChoice isOptional).bind_eq fun _ => .done ⟨rfl, h⟩
  | .define name line parameters defaults body => by
    simp only [play, h.frames]
    exact .done ⟨rfl, h.assign _⟩
  | .calling e args line parameters defaults body => by
    simp only [play, h.frames, c.sight_eq o h]
    have hcall (v : Value) (g : Given) : Script.Alike Eq ((c.sight r o b "").call v g) _ := hr ..
    refine (composes_alike.eval hcall e).bind_eq fun v => ?_
    refine (composes_alike.evalArguments hcall _ _ args).bind_eq fun given => ?_
    refine (hcall v _).bind_eq fun w => ?_
    exact (Script.Alike.ofExcept _).bind_eq fun text => .done ⟨rfl, h⟩

theorem alike_playAll (hr : r.Alike) (c : Compiled) (o : Options) {a b : Env} (h : a.Alike b) :
    (parts : List Part) → Script.Alike SameResult (c.playAll r o a parts) (c.playAll r o b parts)
  | [] => .done ⟨rfl, h⟩
  | part :: rest => by
    simp only [playAll]
    refine (alike_play hr c o h part).bind fun x y hxy => ?_
    refine (alike_playAll hr c o hxy.2 rest).bind fun x' y' hxy' => ?_
    exact .done ⟨by rw [hxy.1, hxy'.1], hxy'.2⟩

theorem alike_playFirst (hr : r.Alike) (c : Compiled) (o : Options) {a b : Env} (h : a.Alike b) :
    (parts : List Part) →
      Script.Alike (Option.Rel SameResult) (c.playFirst r o a parts) (c.playFirst r o b parts)
  | [] => .done .none
  | part :: rest => by
    cases part with
    | choice test body further otherwise =>
      simp only [playFirst]
      refine (c.alike_test o hr h test).bind_eq fun holds => ?_
      cases holds with
      | true => exact (alike_playAll hr c o h body).bind fun x y hxy => .done (.some hxy)
      | false => exact alike_playFirst hr c o h rest
    | _ =>
      simp only [playFirst]
      exact alike_playFirst hr c o h rest

end

/-! ### Calls -/

/-- Parameters get their defaults alike. -/
theorem alike_fill {value : Env → Expr → Script Value}
    (hvalue : ∀ a b, Env.Alike a b → ∀ e, Script.Alike Eq (value a e) (value b e)) {a b : Env} (h : a.Alike b)
    (open_ : List ((String × Option Value) × Option Expr)) :
    Script.Alike Env.Alike (fill value a open_) (fill value b open_) := by
  induction open_ generalizing a b with
  | nil => exact .done h
  | cons entry rest ih =>
    obtain ⟨⟨name, v⟩, e⟩ := entry
    cases v with
    | some v => exact ih h
    | none =>
      cases e with
      | none => exact ih (h.put ..)
      | some e => exact (hvalue a b h e).bind_eq fun v => ih (h.put name v)

/-- From places that keep the same books a macro does alike. -/
theorem alike_playRoutine (hr : r.Alike) (c : Compiled) (o : Options) {a b : Env} (h : a.Alike b) (m : Routine)
    (g : Given) :
    Script.Alike Eq (c.playRoutine r o a m g) (c.playRoutine r o b m g) := by
  unfold playRoutine
  simp only [h.slotNames_eq]
  refine (Script.Alike.ofExcept _).bind_eq fun (taken, extras) => ?_
  refine (alike_fill (fun _ _ h => alike_value _ _ hr h) (h.enter ..) _).bind fun inner inner' hinner => ?_
  exact (alike_playAll hr _ _ hinner m.body).bind fun x y hxy => .done hxy.1

end

/-- A call does as itself, however deep calls nest. -/
theorem alike_call (o : Options) (c : Compiled)
    (invocation : String → List Char → Except Fault Directive.Invocation) (depth : Nat) :
    Recourse.Alike ⟨invocation, call o c invocation depth⟩ := by
  induction depth with
  | zero => exact fun _ _ _ => .fail _
  | succ depth ih =>
    intro autoescape v g
    show Script.Alike Eq (call o c invocation (depth + 1) autoescape v g)
      (call o c invocation (depth + 1) autoescape v g)
    unfold call
    split
    · exact (alike_playRoutine ih c o (Env.alike_reopened ..) _ g).bind_eq fun text => .done rfl
    · exact .fail _
    · exact .ofExcept _

/-- A template does alike over variables that bind the same. -/
theorem alike_renderWith (o : Options) (clerk : Clerk) (c : Compiled) {b b' : Bindings} (h : b.Alike b') :
    Script.Alike Eq (c.renderWith o clerk b) (c.renderWith o clerk b') :=
  (alike_playAll (alike_call o c _ _) c o ((Env.alike_ofVariables h).enter ..) c.parts).bind fun _ _ hxy =>
    .done hxy.1

/-- A template does as itself in scopes that show the same environment. -/
theorem alike_script (o : Options) (clerk : Clerk) (c : Compiled) :
    Script.Alike Eq (c.script o clerk) (c.script o clerk) :=
  .look fun _ _ h => c.alike_renderWith o clerk h

end Compiled

/-! ### Compiling -/

section Compiling
open Directive Inclusion
variable {clerk : Clerk}

/-- Asks for the invocations of the directives met, from the first on. -/
def rememberedAllBy (ask : Preparing) : List MetDirective → Run Desk (List ((String × String) × Invocation))
  | [] => pure []
  | (tag, markup) :: rest => do
    let invocation ← ask tag markup
    pure (((tag, String.ofList markup), invocation) :: (← rememberedAllBy ask rest))

/-- Compiles a text with directives of these names, whose invocations are asked for in some way. -/
def compileTextBy (o : Options) (names : List String) (ask : Preparing) (name : Option String) (text : List Char) :
    Run Desk Compiled := do
  let rewritten := rewriteTags o.delimiters (names.map String.toList) text
  let (outcome, met) := parse names (tokenize o rewritten)
  let invocations ← rememberedAllBy ask met
  let parts := foldedParts o (← Run.ofExcept outcome)
  Run.ofExcept (checkTemplate o parts)
  Run.ofExcept (checkTemplateName name)
  Run.ofExcept (checkHeads parts)
  pure ⟨name, parts, invocations⟩

/-- Compiles a source with directives of these names, whose invocations are asked for in some way. -/
def compileBy (o : Options) (names : List String) (ask : Preparing) (encoding : String) (source : Source)
    (name : String) : Run Desk Compiled := do
  match source with
  | .text cs => compileTextBy o names ask (some name) cs
  | .bytes bytes =>
    let text ← Run.ofExcept (decodeBytes encoding bytes o.library.codecs)
    compileTextBy o names ask (some name) text

/-- A clerk is asked for what it remembers. -/
theorem rememberedAll_eq (clerk : Clerk) (met : List MetDirective) :
    rememberedAll clerk met = rememberedAllBy clerk.remembered met := by
  induction met with
  | nil => rfl
  | cons first rest ih => rw [rememberedAll, rememberedAllBy, ih]

theorem compileText_eq (o : Options) (clerk : Clerk) (name : Option String) (text : List Char) :
    compileText o clerk name text = compileTextBy o clerk.registry.names clerk.remembered name text := by
  simp only [compileText, compileTextBy, rememberedAll_eq]

theorem compile_eq (o : Options) (clerk : Clerk) (encoding : String) :
    (host o clerk encoding).compile = compileBy o clerk.registry.names clerk.remembered encoding := by
  funext source name
  show compile o clerk encoding source name = _
  cases source <;> simp only [compile, compileBy, compileText_eq]

section Parts
variable {G R : Desk → Desk → Prop} (refl : ∀ d, G d d) (trans : ∀ ⦃d e f⦄, G d e → G e f → G d f)
  (hkeeps : ∀ tag markup, (clerk.remembered tag markup).Keeps G) {ask ask' : Preparing}
  (hagree : ∀ tag markup, (ask tag markup).Agree R (ask' tag markup))

section
include refl trans hkeeps

theorem keeps_rememberedAll (met : List MetDirective) : (rememberedAll clerk met).Keeps G := by
  induction met with
  | nil => exact .pure refl _
  | cons first rest ih =>
    refine .bind trans (hkeeps _ _) fun invocation => ?_
    exact .bind trans ih fun _ => .pure refl _

theorem keeps_compileText (o : Options) (name : Option String) (text : List Char) :
    (compileText o clerk name text).Keeps G := by
  refine .bind trans (keeps_rememberedAll refl trans hkeeps _) fun invocations => ?_
  refine .bind trans (.ofExcept refl _) fun parts => ?_
  refine .bind trans (.ofExcept refl _) fun _ => ?_
  refine .bind trans (.ofExcept refl _) fun _ => ?_
  exact .bind trans (.ofExcept refl _) fun _ => .pure refl _

/-- Compiling a template changes the desk as asking the clerk does. -/
theorem keeps_compile (o : Options) (encoding : String) (source : Source) (name : String) :
    ((host o clerk encoding).compile source name).Keeps G := by
  cases source with
  | text cs => exact keeps_compileText refl trans hkeeps o (some name) cs
  | bytes bytes =>
    exact .bind trans (.ofExcept refl _) fun text => keeps_compileText refl trans hkeeps o (some name) text

end

section
include hagree

theorem agree_rememberedAllBy (met : List MetDirective) :
    Run.Agree R (rememberedAllBy ask met) (rememberedAllBy ask' met) := by
  induction met with
  | nil => exact .pure _
  | cons first rest ih => exact .bind (hagree _ _) fun invocation => .bind ih fun _ => .pure _

theorem agree_compileTextBy (o : Options) (names : List String) (name : Option String) (text : List Char) :
    Run.Agree R (compileTextBy o names ask name text) (compileTextBy o names ask' name text) :=
  .bind (agree_rememberedAllBy hagree _) fun _ => .bind (.ofExcept _) fun _ => .bind (.ofExcept _) fun _ =>
    .bind (.ofExcept _) fun _ => .bind (.ofExcept _) fun _ => .pure _

/-- Compiling comes to the same if what is asked for does. -/
theorem agree_compileBy (o : Options) (names : List String) (encoding : String) (source : Source) (name : String) :
    Run.Agree R (compileBy o names ask encoding source name) (compileBy o names ask' encoding source name) := by
  cases source with
  | text cs => exact agree_compileTextBy hagree o names (some name) cs
  | bytes bytes => exact .bind (.ofExcept _) fun text => agree_compileTextBy hagree o names (some name) text

end

end Parts

/-- What compiling comes to depends on the desk only as what the clerk answers does. -/
theorem agree_compile {R : Desk → Desk → Prop}
    (hagree : ∀ tag markup, (clerk.remembered tag markup).Agree R (clerk.remembered tag markup)) (o : Options)
    (encoding : String) (source : Source) (name : String) :
    Run.Agree R ((host o clerk encoding).compile source name) ((host o clerk encoding).compile source name) := by
  rw [compile_eq]
  exact agree_compileBy hagree o _ encoding source name

variable (clerk) (o : Options) (encoding : String)

/-- Compiling a template adds records only, and changes no answer of the clerk. -/
theorem settled_compile (source : Source) (name : String) :
    ((host o clerk encoding).compile source name).Keeps clerk.Settled :=
  keeps_compile .refl Clerk.Settled.trans Clerk.keeps_remembered o encoding source name

theorem host_quiet : (host o clerk encoding).Quiet := fun source name =>
  (settled_compile clerk o encoding source name).mono fun _ _ => And.left

/-- No template binds a name in the scope, let alone a reference. -/
theorem host_referencesRead : (host o clerk encoding).ReferencesRead := fun _ _ compiled _ =>
  (compiled.alike_script o clerk).readsOnly

end Compiling

end Transclusion.Template

import Mathlib.Data.List.Forall2
import Transclusion.Proofs.Taking

/-! Directives are met where they stand.

A template that can be read has a directive for every block that begins with the
name of one, wherever the block stands: at the top, in a branch, in the body of a
loop or of any other tag. They are met in the order in which they stand, each with
its name and, if nothing but a literal follows, with the literal's text for its
markup (`parse_meets`). What carries this through the bodies is that a reader
that stops before the end of the text stops at a token that begins no block. -/
namespace Transclusion.Template

open Inclusion

/-! ### Rows of tokens -/

/-- The block of a directive that begins here: the name, and the tokens behind it. -/
def directiveHere? (directives : List String) : List Token → Option (String × List Token)
  | ⟨_, .blockBegin⟩ :: ⟨_, .name n⟩ :: rest => if n ∈ directives then some (n, rest) else none
  | _ => none

/-- The blocks of directives among tokens, in their order. -/
def directiveBlocks (directives : List String) : List Token → List (String × List Token)
  | [] => []
  | t :: rest => (directiveHere? directives (t :: rest)).toList ++ directiveBlocks directives rest

/-- A row of tokens as it is cut from a text: outside of tags data and openings, within a tag all up to a closing;
it may end anywhere, and where it cannot go on it does. -/
inductive Formed : (within : Bool) → List Token → Prop where
  | nil {within : Bool} : Formed within []
  | last {within : Bool} {t : Token} : t.EndsText → Formed within [t]
  | data {line : Nat} {text : List Char} {rest : List Token} : Formed false rest →
    Formed false (⟨line, .data text⟩ :: rest)
  | opening {t : Token} {rest : List Token} : (t.kind = .blockBegin ∨ t.kind = .variableBegin) → Formed true rest →
    Formed false (t :: rest)
  | closing {t : Token} {rest : List Token} : (t.kind = .blockEnd ∨ t.kind = .variableEnd) → Formed false rest →
    Formed true (t :: rest)
  | between {t : Token} {rest : List Token} : (t.kind ≠ .blockEnd ∧ t.kind ≠ .variableEnd) → ¬ t.EndsText →
    Formed true rest → Formed true (t :: rest)

section
variable {directives : List String} {before rest : List Token} {t : Token} {within : Bool}

theorem directiveHere?_eq_none (h : t.kind ≠ .blockBegin) : directiveHere? directives (t :: rest) = none := by
  unfold directiveHere?
  split
  · next heq =>
    obtain ⟨rfl, -⟩ := List.cons.inj heq
    exact absurd rfl h
  · rfl

/-- Tokens that begin no block hide none. -/
theorem directiveBlocks_append (h : ∀ t ∈ before, t.kind ≠ .blockBegin) :
    directiveBlocks directives (before ++ rest) = directiveBlocks directives rest := by
  induction before with
  | nil => rfl
  | cons t before ih =>
    rw [List.cons_append, directiveBlocks, directiveHere?_eq_none (h t (List.mem_cons_self ..)),
      ih fun t ht => h t (List.mem_cons_of_mem _ ht)]
    rfl

theorem directiveBlocks_block {line line' : Nat} {n : String} :
    directiveBlocks directives (⟨line, .blockBegin⟩ :: ⟨line', .name n⟩ :: rest) =
      (if n ∈ directives then [(n, rest)] else []) ++ directiveBlocks directives rest := by
  rw [directiveBlocks, directiveBlocks, directiveHere?_eq_none (t := ⟨line', .name n⟩) (by simp), directiveHere?]
  split <;> rfl

namespace Formed

/-- Behind its first token a row is one still, and no tag is open if the token closes one. -/
theorem tail (h : Formed within (t :: rest)) :
    ∃ within', Formed within' rest ∧ ((t.kind = .blockEnd ∨ t.kind = .variableEnd) → within' = false) := by
  cases h with
  | last _ => exact ⟨false, .nil, fun _ => rfl⟩
  | data h => exact ⟨false, h, fun _ => rfl⟩
  | opening hkind h => exact ⟨true, h, fun hclosing => by rcases hkind with hkind | hkind <;> simp [hkind] at hclosing⟩
  | closing _ h => exact ⟨false, h, fun _ => rfl⟩
  | between hkind _ h => exact ⟨true, h, fun hclosing => (hclosing.elim hkind.1 hkind.2).elim⟩

theorem behind (h : Formed within (before ++ rest)) : ∃ within', Formed within' rest := by
  induction before generalizing within with
  | nil => exact ⟨within, h⟩
  | cons t before ih =>
    obtain ⟨within', h, -⟩ := h.tail
    exact ih h

theorem behind_closing (h : Formed within (before ++ t :: rest)) (ht : t.kind = .blockEnd ∨ t.kind = .variableEnd) :
    Formed false rest := by
  obtain ⟨within', h⟩ := h.behind
  obtain ⟨within'', h, hclosed⟩ := h.tail
  exact hclosed ht ▸ h

theorem behind_data {text : List Char} (h : Formed false (t :: rest)) (ht : t.kind = .data text) :
    Formed false rest := by
  cases h with
  | last hkind => exact .nil
  | data h => exact h
  | opening hkind _ => rcases hkind with hkind | hkind <;> simp [hkind] at ht

theorem behind_end {r s : Reading} (h : Formed within r.tokens) (hsuffix : s.tokens <:+ r.tokens)
    (hs : s.next.kind = .blockEnd ∨ s.next.kind = .variableEnd) :
    s.behindNext.tokens.length < r.tokens.length ∧ Formed false s.behindNext.tokens := by
  have hnext : s.next.kind ≠ .finish := by rcases hs with hs | hs <;> simp [hs]
  have htokens := Reading.tokens_eq hnext
  obtain ⟨before, hbefore⟩ := hsuffix
  rw [htokens] at hbefore
  rw [← hbefore] at h ⊢
  exact ⟨by simp; omega, h.behind_closing hs⟩

/-- Where no tag is open and neither data nor an opening comes next, the row ends. -/
theorem ends (h : Formed false (t :: rest)) (hdata : ∀ text, t.kind ≠ .data text) (hblock : t.kind ≠ .blockBegin)
    (hvariable : t.kind ≠ .variableBegin) : rest = [] := by
  cases h with
  | last _ => rfl
  | data _ => exact absurd rfl (hdata _)
  | opening hkind _ => exact (hkind.elim hblock hvariable).elim

/-- Where a text cannot be read further the row ends. -/
theorem getLast? (h : Formed within rest) (ht : t ∈ rest) (hend : t.EndsText) : rest.getLast? = some t := by
  have hrest {u : Token} {rest : List Token} (h : rest.getLast? = some t) : (u :: rest).getLast? = some t := by
    rw [List.getLast?_cons, h]
    rfl
  induction h with
  | nil => exact absurd ht (by simp)
  | last _ =>
    obtain rfl := List.mem_singleton.1 ht
    rfl
  | data _ ih =>
    rcases List.mem_cons.1 ht with rfl | ht
    · rcases hend with hend | ⟨fault, hend⟩ <;> cases hend
    · exact hrest (ih ht)
  | opening hkind _ ih =>
    rcases List.mem_cons.1 ht with rfl | ht
    · rcases hend with hend | ⟨fault, hend⟩ <;> rcases hkind with hkind | hkind <;> rw [hend] at hkind <;> cases hkind
    · exact hrest (ih ht)
  | closing hkind _ ih =>
    rcases List.mem_cons.1 ht with rfl | ht
    · rcases hend with hend | ⟨fault, hend⟩ <;> rcases hkind with hkind | hkind <;> rw [hend] at hkind <;> cases hkind
    · exact hrest (ih ht)
  | between _ hinner _ ih =>
    rcases List.mem_cons.1 ht with rfl | ht
    · exact absurd hend hinner
    · exact hrest (ih ht)

end Formed

end

/-! ### Readers of blocks -/

/-- A directive is met with the name of its block, and with the text of the literal if nothing else stands in it. -/
def IsMetAs (block : String × List Token) (met : MetDirective) : Prop :=
  met.1 = block.1 ∧ ∀ line s line' more, block.2 = ⟨line, .string s⟩ :: ⟨line', .blockEnd⟩ :: more → met.2 = s.toList

/-- The tags that end a part of a body. -/
def endTags : List String :=
  ["elif", "else", "endif", "endfor", "endset", "endwith", "endblock", "endmacro", "endcall", "endautoescape",
    "endfilter"]

/-- No block of a directive among tokens begins with a tag that the language has itself. -/
def AreApart (directives : List String) (tokens : List Token) : Prop :=
  ∀ block ∈ directiveBlocks directives tokens, block.1 ∉ Parser.ownTags ∧ block.1 ∉ endTags

/-- A tag of the language is no directive where blocks of directives are apart from these. -/
theorem AreApart.not_mem {directives : List String} {tokens rest : List Token} {n : String}
    {blocks : List (String × List Token)} (h : AreApart directives tokens)
    (hblocks : directiveBlocks directives tokens = (if n ∈ directives then [(n, rest)] else []) ++ blocks)
    (hn : n ∈ Parser.ownTags ∨ n ∈ endTags) : n ∉ directives := by
  intro hmem
  rw [if_pos hmem] at hblocks
  have hblock : (n, rest) ∈ directiveBlocks directives tokens := by
    rw [hblocks]
    exact List.mem_cons_self ..
  exact hn.elim (h _ hblock).1 (h _ hblock).2

/-- From one reading to another a directive is met for each of the blocks that have been passed, if the language has
no tag of its own with the name of one. -/
structure Reading.Meets (directives : List String) (r u : Reading) : Prop where
  suffix : u.tokens <:+ r.tokens
  met : AreApart directives r.tokens →
    ∃ passed new, directiveBlocks directives r.tokens = passed ++ directiveBlocks directives u.tokens ∧
      u.met = r.met ++ new ∧ List.Forall₂ IsMetAs passed new
  intact : ∀ last, last.EndsText → r.Intact last → u.Intact last

namespace Reading

variable {directives : List String} {r t u : Reading}

theorem Onward.meets (h : r.Onward u) : r.Meets directives u := by
  obtain ⟨taken, htokens, htaken⟩ := h.taken
  refine ⟨h.suffix, fun _ => ⟨[], [], ?_, by rw [h.met, List.append_nil], .nil⟩, h.intact⟩
  rw [htokens, directiveBlocks_append htaken, List.nil_append]

theorem Meets.trans (h : r.Meets directives t) (h' : t.Meets directives u) : r.Meets directives u := by
  refine ⟨h'.suffix.trans h.suffix, fun hapart => ?_,
    fun last hlast hr => h'.intact last hlast (h.intact last hlast hr)⟩
  obtain ⟨passed, new, hblocks, hmet, hall⟩ := h.met hapart
  have hbehind : AreApart directives t.tokens := fun block hblock =>
    hapart block (hblocks ▸ List.mem_append_right _ hblock)
  obtain ⟨passed', new', hblocks', hmet', hall'⟩ := h'.met hbehind
  refine ⟨passed ++ passed', new ++ new', ?_, ?_, List.rel_append hall hall'⟩
  · rw [hblocks, hblocks', List.append_assoc]
  · rw [hmet', hmet, List.append_assoc]

/-- Fewer tokens than a number are left, and they are in order. -/
structure Fits (size : Nat) (r : Reading) : Prop where
  lt : r.tokens.length < size
  formed : ∃ within, Formed within r.tokens

theorem Fits.suffix {size : Nat} (h : r.Fits size) (hsuffix : u.tokens <:+ r.tokens) : u.Fits size := by
  obtain ⟨before, htokens⟩ := hsuffix
  obtain ⟨within, hformed⟩ := h.formed
  refine ⟨Nat.lt_of_le_of_lt ?_ h.lt, Formed.behind (htokens ▸ hformed)⟩
  simp [← htokens]

end Reading

namespace Parser

variable (directives : List String) (size : Nat) {α β γ : Type} {m : Parser α}

/-- Where the reader comes to a result, a directive has been met for each of the blocks passed. -/
def Reads (m : Parser α) : Prop := ∀ r a u, r.Fits size → m.start r = (.ok a, u) → r.Meets directives u

/-- The reader also stops before a token that begins no block. -/
def ReadsUp (m : Parser α) : Prop :=
  ∀ r a u, r.Fits size → m.start r = (.ok a, u) → r.Meets directives u ∧ u.next.kind ≠ .blockBegin

/-- The blocks open around a place wait for end tags alone. -/
structure Surroundings.Waits (s : Surroundings) : Prop where
  directives : s.directives = directives
  wanted : ∀ ends ∈ s.wanted, ∀ n ∈ ends, n ∈ endTags

/-- The parts of a body are read from where no tag is open, up to a token that begins no block. -/
def Body.Reads (parts : Body) : Prop :=
  ∀ s, s.Waits directives → ∀ r a u, r.Fits size → Formed false r.tokens → (parts s).start r = (.ok a, u) →
    r.Meets directives u ∧ u.next.kind ≠ .blockBegin

variable {directives size}

theorem Takes.reads (h : Takes m) : Reads directives size m := fun r a u _ hu => (h r a u hu).meets

theorem ReadsUp.reads (h : ReadsUp directives size m) : Reads directives size m :=
  fun r a u hr hu => (h r a u hr hu).1

namespace Reads

protected theorem pure (a : α) : Reads directives size (pure a) := Takes.reads (.pure a)

theorem fail (line : Nat) (fault : SyntaxFault) : Reads directives size (Parser.fail line fault : Parser α) :=
  Takes.reads (.fail line fault)

theorem bind (hm : Reads directives size m) {f : α → Parser β} (hf : ∀ a, Reads directives size (f a)) :
    Reads directives size (m >>= f) := by
  intro r b u hr h
  obtain ⟨a, s, hs, hu⟩ := Run.start_bind_eq_ok h
  have hfirst := hm r a s hr hs
  exact hfirst.trans (hf a s b u (hr.suffix hfirst.suffix) hu)

theorem ite {c : Prop} [Decidable c] {n : Parser α} (hm : Reads directives size m) (hn : Reads directives size n) :
    Reads directives size (if c then m else n) := by
  split
  · exact hm
  · exact hn

/-- A reader that goes on in one way, with or without something before it. -/
theorem join {c : Prop} [Decidable c] {m : Parser Unit} {f : Unit → Parser α} (hm : Reads directives size m)
    (hf : Reads directives size (f ())) : Reads directives size (if c then m >>= f else f ()) :=
  .ite (hm.bind fun _ => hf) hf

theorem either {c : Prop} [Decidable c] {n : Parser α} {f : α → Parser β} (hm : Reads directives size m)
    (hn : Reads directives size n) (hf : ∀ a, Reads directives size (f a)) :
    Reads directives size (if c then m >>= f else n >>= f) := .ite (hm.bind hf) (hn.bind hf)

/-- A reader that goes on in one way with what something before it gives, or with something else. -/
theorem optional {c : Prop} [Decidable c] {f : β → Parser γ} {g : α → β} {b : β} (hm : Reads directives size m)
    (hf : ∀ b, Reads directives size (f b)) :
    Reads directives size (if c then m >>= fun a => pure (g a) >>= f else pure b >>= f) :=
  .ite (hm.bind fun a => (Reads.pure (g a)).bind hf) ((Reads.pure b).bind hf)

/-- A reader that takes the token behind what it has read first. -/
theorem advance (hm : ReadsUp directives size m) {f : α → Token → Parser β}
    (hf : ∀ a t, Reads directives size (f a t)) :
    Reads directives size (m >>= fun a => Parser.advance >>= f a) := by
  intro r b u hr h
  obtain ⟨a, s, hs, hu⟩ := Run.start_bind_eq_ok h
  obtain ⟨t, s', hs', hu⟩ := Run.start_bind_eq_ok hu
  obtain ⟨-, rfl, hchecked⟩ := advance_eq_ok hs'
  obtain ⟨hfirst, hnext⟩ := hm r a s hr hs
  have hbehind := hfirst.trans (Reading.onward_behindNext hnext hchecked).meets
  exact hbehind.trans (hf a t _ b u (hr.suffix hbehind.suffix) hu)

end Reads

theorem expect_eq_ok {kind : TokenKind} {description : String} {t : Token} {r u : Reading}
    (h : (expect kind description).start r = (.ok t, u)) :
    r.next.kind = kind ∧ u = r.behindNext ∧ ∀ fault, r.behindNext.next.kind ≠ .broken fault := by
  unfold expect at h
  rw [Run.start_bind_ok (current_start r)] at h
  split at h
  · next hkind => exact ⟨hkind, (advance_eq_ok h).2⟩
  · split at h <;> cases (Prod.mk.inj h).1

/-! ### Bodies and tags -/

section
variable {parts : Body} (hparts : parts.Reads directives size) {s : Surroundings} (hs : s.Waits directives)
include hparts hs

theorem readsUp_bodyUpTo {ends : List String} (hends : ∀ n ∈ ends, n ∈ endTags) :
    ReadsUp directives size (bodyUpTo parts s ends) := by
  have hwaits : (s.upTo ends).Waits directives :=
    ⟨hs.directives, fun e he => (List.mem_cons.1 he).elim (fun heq => heq ▸ hends) (hs.wanted e)⟩
  intro r a u hr h
  unfold bodyUpTo at h
  obtain ⟨⟨⟩, r₁, h₁, h'⟩ := Run.start_bind_eq_ok h
  rw [discard_bind] at h'
  obtain ⟨t, r₂, h₂, h''⟩ := Run.start_bind_eq_ok h'
  obtain ⟨body, r₃, h₃, hlast⟩ := Run.start_bind_eq_ok h''
  rw [Run.start_bind_ok (current_start r₃)] at hlast
  have hcolon : r.Meets directives r₁ := ((takes_skip? (by simp)).discard r _ r₁ h₁).meets
  obtain ⟨hkind, rfl, hchecked⟩ := expect_eq_ok h₂
  have hend := hcolon.trans (Reading.onward_behindNext (by simp [hkind]) hchecked).meets
  -- The body starts behind the closing of its tag.
  have hformed : Formed false r₁.behindNext.tokens := by
    obtain ⟨within, hwithin⟩ := (hr.suffix hcolon.suffix).formed
    rw [Reading.tokens_eq (by simp [hkind])] at hwithin
    exact @Formed.behind_closing [] _ _ _ hwithin (.inl hkind)
  obtain ⟨hbody, hnext⟩ := hparts _ hwaits _ body r₃ (hr.suffix hend.suffix) hformed h₃
  obtain rfl : u = r₃ := by
    split at hlast
    · cases (Prod.mk.inj hlast).1
    · exact (Prod.mk.inj hlast).2.symm
  exact ⟨hend.trans hbody, hnext⟩

theorem reads_bodyTo {ending : String} (hending : ending ∈ endTags) :
    Reads directives size (bodyTo parts s ending) := by
  unfold bodyTo
  have hends : ∀ n ∈ [ending], n ∈ endTags := by simpa using hending
  simp only [discard_bind]
  exact .advance (readsUp_bodyUpTo hparts hs hends) fun body t => .pure body

theorem reads_choiceTo (branches : Nat) : Reads directives size (choiceTo parts s branches) := by
  induction branches with
  | zero => exact Takes.reads (.look fun t => Takes.here (.fail _ _))
  | succ branches ih =>
    unfold choiceTo
    refine (takes_plainTuple.reads).bind fun test => ?_
    refine .advance (readsUp_bodyUpTo hparts hs (by decide)) fun body t => ?_
    split
    · exact ih.bind fun _ => .pure _
    · exact (reads_bodyTo hparts hs (by decide)).bind fun _ => .pure _
    · exact .pure _

theorem reads_choiceTag : Reads directives size (choiceTag parts s) := by
  intro r
  exact (reads_choiceTo hparts hs (r.size + 1)).bind (fun _ => .pure _) r

theorem reads_loopTag : Reads directives size (loopTag parts s) := by
  unfold loopTag
  refine (takes_target false).reads.bind fun variable_ => ?_
  refine (takes_expect (by simp) _).discard.reads.bind fun _ => takes_plainTuple.reads.bind fun range => ?_
  refine (takes_skip? (by simp)).reads.bind fun _ => .optional takes_expression.reads fun test => ?_
  refine (takes_skip? (by simp)).reads.bind fun isRecursive => ?_
  refine .advance (readsUp_bodyUpTo hparts hs (by decide)) fun body t => ?_
  split
  · exact (reads_bodyTo hparts hs (by decide)).bind fun _ => .pure _
  · exact .pure _

theorem reads_assignTag : Reads directives size (assignTag parts s) := by
  unfold assignTag
  refine (takes_target true).reads.bind fun variable_ => (takes_skip? (by simp)).reads.bind fun _ => .ite ?_ ?_
  · exact takes_tuple.reads.bind fun _ => .pure _
  · refine (takes_filters takes_expression _).reads.bind fun e => ?_
    exact (reads_bodyTo hparts hs (by decide)).bind fun _ => .pure _

theorem reads_scopedTag : Reads directives size (scopedTag parts s) := by
  unfold scopedTag
  refine (takes_loop (fun items => ?_) []).reads.bind fun items => ?_
  · refine .look fun t => Takes.here (.ite (.pure _) (.join (takes_expectSymbol ",") ?_))
    refine (takes_target false).bind fun _ => (takes_expectSymbol "=").bind fun _ => ?_
    exact takes_expression.bind fun _ => .pure _
  · exact (reads_bodyTo hparts hs (by decide)).bind fun _ => .pure _

theorem reads_blockTag (line : Nat) : Reads directives size (blockTag parts s line) := by
  unfold blockTag
  refine takes_expectName.reads.bind fun x => ?_
  refine (takes_skip? (by simp)).reads.bind fun _ => (takes_skip? (by simp)).reads.bind fun _ => ?_
  refine (Takes.current.reads).bind fun t => .join (.fail _ _) ?_
  refine (reads_bodyTo hparts hs (by decide)).bind fun body => ?_
  have hend {body : List Part} {isScoped isRequired : Bool} : Reads directives size (do
      discard (skip? (.name x.2))
      pure (Part.block x.2 isScoped isRequired line body)) :=
    (takes_skip? (by simp)).discard.reads.bind fun _ => .pure _
  exact .ite (Takes.current.reads.bind fun t => (Reads.fail _ _).bind fun _ => hend) hend

theorem reads_defineTag (line : Nat) : Reads directives size (defineTag parts s line) := by
  unfold defineTag
  refine takes_expectFreeName.reads.bind fun x => takes_parameters.reads.bind fun taken => ?_
  exact (reads_bodyTo hparts hs (by decide)).bind fun _ => .pure _

theorem reads_callTag (line : Nat) : Reads directives size (callTag parts s line) := by
  unfold callTag
  refine Takes.current.reads.bind fun t => .either takes_parameters.reads (.pure _) fun taken => ?_
  refine takes_expression.reads.bind fun e => ?_
  split
  · exact (reads_bodyTo hparts hs (by decide)).bind fun _ => .pure _
  · exact .fail _ _

theorem reads_ownTag (word : String) (line : Nat) : Reads directives size (ownTag parts s word line) := by
  have hone {m : Parser Part} (hm : Reads directives size m) : Reads directives size (do pure [← m]) :=
    hm.bind fun _ => .pure _
  unfold ownTag
  split
  · exact hone (reads_choiceTag hparts hs)
  · exact hone (reads_loopTag hparts hs)
  · exact hone (reads_assignTag hparts hs)
  · exact hone (reads_scopedTag hparts hs)
  · exact takes_printTag.reads
  · exact hone (reads_blockTag hparts hs line)
  · exact takes_expression.reads.bind fun _ => .pure _
  · exact hone takes_loadTag.reads
  · exact hone takes_importTag.reads
  · exact hone takes_importNamesTag.reads
  · exact hone (reads_defineTag hparts hs line)
  · exact hone (reads_callTag hparts hs line)
  · refine takes_expression.reads.bind fun e => ?_
    exact (reads_bodyTo hparts hs (by decide)).bind fun _ => .pure _
  · refine (takes_filterOf takes_expression _).reads.bind fun e => ?_
    refine (takes_filters takes_expression _).reads.bind fun e => ?_
    exact (reads_bodyTo hparts hs (by decide)).bind fun _ => .pure _

end

/-! ### The whole -/

/-- A directive is met with what its literal says, if it can be read at all. -/
theorem meets_directiveTag {tag : String} {line : Nat} {part : Part} {r u : Reading}
    (h : (directiveTag tag line).start r = (.ok part, u)) :
    ∃ markup, IsMetAs (tag, r.tokens) (tag, markup) ∧ u.met = r.met ++ [(tag, markup)] ∧
      directiveBlocks directives u.tokens = directiveBlocks directives r.tokens ∧ u.tokens <:+ r.tokens ∧
      ∀ last, last.EndsText → r.Intact last → u.Intact last := by
  unfold directiveTag at h
  obtain ⟨e, s, hs, h'⟩ := Run.start_bind_eq_ok h
  have honward := takes_expression r e s hs
  split at h'
  · next text =>
    obtain ⟨taken, htokens, htaken⟩ := honward.taken
    obtain ⟨⟨⟩, v, hv, hu⟩ := Run.start_bind_eq_ok h'
    obtain ⟨-, rfl⟩ := Prod.mk.inj hv
    obtain ⟨-, rfl⟩ := Prod.mk.inj hu
    refine ⟨text.toList, ⟨rfl, fun line' literal line'' more hliteral => ?_⟩, by rw [← honward.met], ?_, honward.suffix,
      fun last hlast hr => ⟨(honward.intact last hlast hr).last, (honward.intact last hlast hr).next⟩⟩
    · have hbefore : Before r { r with tokens := ⟨line'', .blockEnd⟩ :: more } line' literal :=
        ⟨hliteral, rfl, line'', more, rfl⟩
      have hliteral := start_expression hbefore
      rw [hs] at hliteral
      simp only [Prod.mk.injEq, Except.ok.injEq, Expr.literal.injEq, Constant.text.injEq] at hliteral
      rw [hliteral.1]
    · exact htokens ▸ (directiveBlocks_append htaken).symm
  · cases (Prod.mk.inj h').1

theorem currentName?_eq_ok {r u : Reading} {name? : Option String} (h : currentName?.start r = (.ok name?, u)) :
    (∀ n, name? = some n ↔ r.next.kind = .name n) ∧ u = r := by
  unfold currentName? at h
  rw [Run.start_bind_ok (current_start r)] at h
  split at h
  · next n hn =>
    obtain ⟨hname, rfl⟩ := Prod.mk.inj h
    obtain rfl := Except.ok.inj hname
    exact ⟨fun n' => by simp [hn], rfl⟩
  · next hnone =>
    obtain ⟨hname, rfl⟩ := Prod.mk.inj h
    obtain rfl := Except.ok.inj hname
    exact ⟨fun n' => ⟨fun heq => by simp at heq, fun heq => absurd heq (hnone n')⟩, rfl⟩

/-- A block is passed from its beginning on. -/
theorem meets_statement {parts : Body} (hparts : parts.Reads directives size) {s : Surroundings}
    (hs : s.Waits directives) {n : String} {r u : Reading} {a : List Part} (hkind : r.next.kind = .blockBegin)
    (hname : r.behindNext.next.kind = .name n) (hfits : r.Fits (size + 1)) (hformed : Formed false r.tokens)
    (h : (statement parts s).start r.behindNext = (.ok a, u)) : r.Meets directives u := by
  have htokens := @Reading.tokens_eq r (by simp [hkind])
  have hrest := @Reading.tokens_eq r.behindNext (by simp [hname])
  generalize hv : r.behindNext = v at h htokens hrest hname
  have hmet : v.met = r.met := by rw [← hv]; rfl
  have hnext : v.next = ⟨v.next.line, .name n⟩ := by rw [← hname]
  have hblocks := @directiveBlocks_block directives v.behindNext.tokens r.next.line v.next.line n
  rw [← hnext, ← hrest, show (⟨r.next.line, .blockBegin⟩ : Token) = r.next by rw [← hkind], ← htokens] at hblocks
  have hsuffix : v.behindNext.tokens <:+ r.tokens := by
    rw [htokens, hrest]
    exact ⟨[_, _], rfl⟩
  have hintact : ∀ last : Token, r.Intact last → v.Intact last := by
    intro last hlast
    have hend := hlast.last
    rw [htokens, hrest] at hend
    exact ⟨by rw [hrest]; exact hend, by simp [hname]⟩
  unfold statement at h
  rw [Run.start_bind_ok (current_start v), hname] at h
  simp only at h
  split at h
  · next hown =>
    rw [discard_bind] at h
    obtain ⟨t, w, hw, h'⟩ := Run.start_bind_eq_ok h
    obtain ⟨-, rfl, hchecked⟩ := advance_eq_ok hw
    have hfirst : r.Meets directives v.behindNext := by
      refine ⟨hsuffix, fun hapart => ⟨[], [], ?_, (List.append_nil r.met).symm ▸ hmet, .nil⟩,
        fun last hlast hlast' => (hintact last hlast').behindNext hlast hchecked⟩
      rw [hblocks, if_neg (hapart.not_mem hblocks (.inl (List.contains_iff_mem.1 hown)))]
    have hwithin : (s.within n).Waits directives := ⟨hs.directives, hs.wanted⟩
    have hfits' : v.behindNext.Fits size := by
      have hlt := hfits.lt
      rw [htokens, hrest, List.length_cons, List.length_cons] at hlt
      rw [htokens, hrest] at hformed
      exact ⟨by omega, @Formed.behind [_, _] _ _ hformed⟩
    exact hfirst.trans (reads_ownTag hparts hwithin n _ _ a u hfits' h')
  · split at h
    · next hdirective =>
      rw [hs.directives] at hdirective
      rw [if_pos (List.contains_iff_mem.1 hdirective)] at hblocks
      rw [discard_bind] at h
      obtain ⟨t, w, hw, h'⟩ := Run.start_bind_eq_ok h
      obtain ⟨-, rfl, hchecked⟩ := advance_eq_ok hw
      obtain ⟨part, w, hpart, h''⟩ := Run.start_bind_eq_ok h'
      obtain ⟨-, rfl⟩ := Prod.mk.inj h''
      obtain ⟨markup, hmarkup, hu, hlater, hsuffix', hend⟩ := @meets_directiveTag directives _ _ _ _ _ hpart
      refine ⟨hsuffix'.trans hsuffix, fun _ => ⟨[(n, v.behindNext.tokens)], [(n, markup)], by rw [hblocks, hlater], ?_,
        .cons hmarkup .nil⟩, fun last hlast hlast' => hend last hlast ((hintact last hlast').behindNext hlast hchecked)⟩
      rw [hu, ← hmet]
      rfl
    · cases (Prod.mk.inj h).1

/-- What a turn of reading parts comes to: it goes on behind a part that has been passed, or it is the last, and then
the text ends if no body is open. -/
def TurnsTo (directives : List String) (fuel : Nat) (s : Surroundings) (r u : Reading) : Prop :=
  (∃ w more, r.Meets directives w ∧ w.tokens.length < r.tokens.length ∧ Formed false w.tokens ∧
    (partsTo fuel s).start w = (.ok more, u)) ∨
  (r.Meets directives u ∧ u.next.kind ≠ .blockBegin ∧ (s.wanted = [] → u.tokens.length ≤ 1))

section
variable {fuel : Nat} {s : Surroundings} {r u w : Reading} {more : List Part}

/-- Data are passed. -/
theorem turnsTo_data {text : List Char} (hformed : Formed false r.tokens) (hkind : r.next.kind = .data text)
    (hchecked : ∀ fault, r.behindNext.next.kind ≠ .broken fault)
    (h : (partsTo fuel s).start r.behindNext = (.ok more, u)) : TurnsTo directives fuel s r u := by
  have htokens := @Reading.tokens_eq r (by simp [hkind])
  refine .inl ⟨_, _, (Reading.onward_behindNext (by simp [hkind]) hchecked).meets, ?_, ?_, h⟩
  · rw [htokens]
    exact Nat.lt_succ_self _
  · rw [htokens] at hformed
    exact hformed.behind_data hkind

/-- What has been read up to the end of a tag is passed with it. -/
theorem turnsTo_tag (hformed : Formed false r.tokens) (hmeets : r.Meets directives w)
    (hend : w.next.kind = .blockEnd ∨ w.next.kind = .variableEnd)
    (hchecked : ∀ fault, w.behindNext.next.kind ≠ .broken fault)
    (h : (partsTo fuel s).start w.behindNext = (.ok more, u)) : TurnsTo directives fuel s r u := by
  obtain ⟨hlt, hbehind⟩ := hformed.behind_end hmeets.suffix hend
  have hnext : w.next.kind ≠ .blockBegin := by rcases hend with hend | hend <;> simp [hend]
  exact .inl ⟨_, _, hmeets.trans (Reading.onward_behindNext hnext hchecked).meets, hlt, hbehind, h⟩

/-- A tag that the innermost body waits for is no directive, and the turn is the last. -/
theorem turnsTo_wanted (hs : s.Waits directives) {n : String} (hkind : r.next.kind = .blockBegin)
    (hname : r.behindNext.next.kind = .name n) (hwanted : n ∈ s.wanted.headD [])
    (hchecked : ∀ fault, r.behindNext.next.kind ≠ .broken fault) : TurnsTo directives fuel s r r.behindNext := by
  obtain ⟨ends, outer, houter⟩ : ∃ ends outer, s.wanted = ends :: outer := by
    cases h : s.wanted with
    | nil => rw [h] at hwanted; cases hwanted
    | cons ends outer => exact ⟨ends, outer, rfl⟩
  rw [houter] at hwanted
  have hend : n ∈ endTags := hs.wanted ends (houter ▸ List.mem_cons_self ..) n hwanted
  have hblock : r.next = ⟨r.next.line, .blockBegin⟩ := by rw [← hkind]
  have hnext : r.behindNext.next = ⟨r.behindNext.next.line, .name n⟩ := by rw [← hname]
  have htokens := @Reading.tokens_eq r (by simp [hkind])
  have hbehind := @Reading.tokens_eq r.behindNext (by simp [hname])
  rw [hblock] at htokens
  rw [hnext] at hbehind
  refine .inr ⟨⟨?_, fun hapart => ⟨[], [], ?_, (List.append_nil _).symm, .nil⟩,
    fun last hlast hr => hr.behindNext hlast hchecked⟩, by simp [hname], fun h => absurd h (by simp [houter])⟩
  · rw [htokens]
    exact List.suffix_cons ..
  · have hblocks :=
      @directiveBlocks_block directives r.behindNext.behindNext.tokens r.next.line r.behindNext.next.line n
    rw [← hbehind, ← htokens] at hblocks
    rw [hblocks, if_neg (hapart.not_mem hblocks (.inr hend)), hbehind, List.nil_append, List.nil_append,
      directiveBlocks, directiveHere?_eq_none (by simp)]
    rfl

/-- Where no part begins the turn is the last, and the text ends. -/
theorem turnsTo_end (hformed : Formed false r.tokens) (hdata : ∀ text, r.next.kind ≠ .data text)
    (hvariable : r.next.kind ≠ .variableBegin) (hblock : r.next.kind ≠ .blockBegin) :
    TurnsTo directives fuel s r r := by
  refine .inr ⟨(Reading.Onward.refl r).meets, hblock, fun _ => ?_⟩
  cases htokens : r.tokens with
  | nil => exact Nat.zero_le _
  | cons t rest =>
    have hnext : r.next = t := by rw [Reading.next, htokens]; rfl
    rw [hnext] at hdata hvariable hblock
    rw [htokens] at hformed
    rw [hformed.ends hdata hblock hvariable]
    exact Nat.le_refl _

/-- A block begins with a name. -/
theorem statement_ne_ok {parts : Body} (h : ∀ n, r.next.kind ≠ .name n) (a : List Part) :
    (statement parts s).start r ≠ (.ok a, u) := by
  intro hstart
  unfold statement at hstart
  rw [Run.start_bind_ok (current_start _)] at hstart
  split at hstart
  · next n hn => exact h n hn
  · cases (Prod.mk.inj hstart).1

/-- One turn of reading parts. -/
theorem turnsTo_partsTo (hs : s.Waits directives) {a : List Part} (hfits : r.Fits (fuel + 1))
    (hformed : Formed false r.tokens) (hparts : Body.Reads directives fuel (partsTo fuel))
    (h : (partsTo (fuel + 1) s).start r = (.ok a, u)) : TurnsTo directives fuel s r u := by
  rw [partsTo, Run.start_bind_ok (current_start r)] at h
  split at h
  · next text hkind =>
    rw [discard_bind] at h
    obtain ⟨t, w, hw, h'⟩ := Run.start_bind_eq_ok h
    obtain ⟨-, rfl, hchecked⟩ := advance_eq_ok hw
    obtain ⟨more, w, hw, h''⟩ := Run.start_bind_eq_ok h'
    obtain ⟨-, rfl⟩ := Prod.mk.inj h''
    exact turnsTo_data hformed hkind hchecked hw
  · next hkind =>
    rw [discard_bind] at h
    obtain ⟨t, w₁, hw₁, h₁⟩ := Run.start_bind_eq_ok h
    obtain ⟨-, rfl, hchecked⟩ := advance_eq_ok hw₁
    obtain ⟨e, w₂, hw₂, h₂⟩ := Run.start_bind_eq_ok h₁
    rw [discard_bind] at h₂
    obtain ⟨t', w₃, hw₃, h₃⟩ := Run.start_bind_eq_ok h₂
    obtain ⟨more, w₄, hw₄, h₄⟩ := Run.start_bind_eq_ok h₃
    obtain ⟨-, rfl⟩ := Prod.mk.inj h₄
    obtain ⟨hend, rfl, hchecked'⟩ := expect_eq_ok hw₃
    have honward := (Reading.onward_behindNext (by simp [hkind]) hchecked).trans (takes_tuple _ _ _ hw₂)
    exact turnsTo_tag hformed honward.meets (.inr hend) hchecked' hw₄
  · next hkind =>
    rw [discard_bind] at h
    obtain ⟨t, v, hv, h₁⟩ := Run.start_bind_eq_ok h
    obtain ⟨-, rfl, hchecked⟩ := advance_eq_ok hv
    obtain ⟨name?, v, hv, h₂⟩ := Run.start_bind_eq_ok h₁
    obtain ⟨hname, rfl⟩ := currentName?_eq_ok hv
    split at h₂
    · next n =>
      have hn : r.behindNext.next.kind = .name n := (hname n).1 rfl
      split at h₂
      · next hend =>
        obtain ⟨-, rfl⟩ := Prod.mk.inj h₂
        exact turnsTo_wanted hs hkind hn (List.contains_iff_mem.1 hend) hchecked
      · obtain ⟨part, w₂, hw₂, h₃⟩ := Run.start_bind_eq_ok h₂
        rw [discard_bind] at h₃
        obtain ⟨t', w₃, hw₃, h₄⟩ := Run.start_bind_eq_ok h₃
        obtain ⟨more, w₄, hw₄, h₅⟩ := Run.start_bind_eq_ok h₄
        obtain ⟨-, rfl⟩ := Prod.mk.inj h₅
        obtain ⟨hend, rfl, hchecked'⟩ := expect_eq_ok hw₃
        have hmeets := meets_statement hparts hs hkind hn hfits hformed hw₂
        exact turnsTo_tag hformed hmeets (.inl hend) hchecked' hw₄
    · rw [discard_bind] at h₂
      obtain ⟨parts, w, hw, -⟩ := Run.start_bind_eq_ok h₂
      exact absurd hw (statement_ne_ok (fun n hn => absurd ((hname n).2 hn) (by simp)) parts)
  · next hdata hvariable hblock =>
    obtain ⟨-, rfl⟩ := Prod.mk.inj h
    exact turnsTo_end hformed hdata hvariable hblock

end

/-- All parts up to a place are read, and the text ends there if no body is open. -/
theorem reads_partsTo (fuel : Nat) {s : Surroundings} (hs : s.Waits directives) {r u : Reading} {a : List Part}
    (hfits : r.Fits fuel) (hformed : Formed false r.tokens) (h : (partsTo fuel s).start r = (.ok a, u)) :
    r.Meets directives u ∧ u.next.kind ≠ .blockBegin ∧ (s.wanted = [] → u.tokens.length ≤ 1) := by
  induction fuel generalizing s r u a with
  | zero => exact absurd hfits.lt (Nat.not_lt_zero _)
  | succ fuel ih =>
    have hparts : Body.Reads directives fuel (partsTo fuel) := fun s hs r a u hfits hformed h =>
      ⟨(ih hs hfits hformed h).1, (ih hs hfits hformed h).2.1⟩
    rcases turnsTo_partsTo hs hfits hformed hparts h with ⟨w, more, hmeets, hlt, hw, hu⟩ | hlast
    · have hlt' : w.tokens.length < fuel := Nat.lt_of_lt_of_le hlt (Nat.le_of_lt_succ hfits.lt)
      obtain ⟨hbehind, hstop⟩ := ih hs ⟨hlt', false, hw⟩ hw hu
      exact ⟨hmeets.trans hbehind, hstop⟩
    · exact hlast

/-- A template that can be read has all its directives met, in the order in which they stand, if the language has no
tag of its own with the name of one; and its text can be read to the end. -/
theorem parse_meets {tokens : List Token} {last : Token} {parts : List Part} (hformed : Formed false tokens)
    (hlast : tokens.getLast? = some last) (hends : last.EndsText) (h : (parse directives tokens).1 = .ok parts) :
    (AreApart directives tokens →
      List.Forall₂ IsMetAs (directiveBlocks directives tokens) (parse directives tokens).2) ∧
      ∀ t ∈ tokens, ∀ fault, t.kind ≠ .broken fault := by
  unfold parse at h ⊢
  simp only at h ⊢
  generalize hstart : Run.start _ _ = found at h ⊢
  obtain ⟨outcome, u⟩ := found
  obtain rfl := h
  obtain ⟨⟨⟩, r, hr, hu⟩ := Run.start_bind_eq_ok hstart
  unfold checkNext at hr
  rw [Run.start_bind_ok (current_start _)] at hr
  obtain ⟨rfl, hchecked⟩ := start_checkToken hr
  have hwaits : Surroundings.Waits directives ⟨directives, [], []⟩ := ⟨rfl, by simp⟩
  obtain ⟨hmeets, hblock, hend⟩ := reads_partsTo _ hwaits ⟨Nat.lt_succ_self _, false, hformed⟩ hformed hu
  -- The one token that is left is the last one.
  obtain ⟨hleft, hread⟩ := hmeets.intact last hends ⟨hlast, hchecked⟩
  obtain ⟨before, htokens⟩ := List.getLast?_eq_some_iff.1 hleft
  obtain rfl : before = [] := by
    have hlength := hend rfl
    rw [htokens, List.length_append] at hlength
    exact List.eq_nil_of_length_eq_zero (by simpa using hlength)
  have hnext : u.next = last := by rw [Reading.next, htokens]; rfl
  rw [hnext] at hblock hread
  constructor
  · intro hapart
    obtain ⟨passed, new, hblocks, hmet, hall⟩ := hmeets.met hapart
    rw [List.nil_append] at hmet htokens
    have hnone : directiveBlocks directives u.tokens = [] := by
      rw [htokens, directiveBlocks, directiveHere?_eq_none hblock]
      rfl
    rw [hnone, List.append_nil] at hblocks
    rw [hblocks, hmet]
    exact hall
  · intro t ht fault hfault
    have hsame := hformed.getLast? ht (.inr ⟨fault, hfault⟩)
    rw [hlast] at hsame
    obtain rfl := Option.some.inj hsame
    exact hread fault hfault

end Parser

end Transclusion.Template

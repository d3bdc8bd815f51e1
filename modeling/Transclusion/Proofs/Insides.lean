import Transclusion.Proofs.Lexing

/-! Insides of tags.

What stands in a tag, from behind its opening to its closing, is a text of which
only three things count: literals, brackets, and the mark that closes the tag
where no bracket is open (`Inside`). The lexer takes more at a time, but every
token other than these is *smooth*: no literal, bracket or closing begins within
it. So the lexer leaves a tag where its inside ends (`inside_of_leave?`), whatever
stands behind it, and it either reads an inside to the end or finds something in
it that it cannot read (`tokens_inside`). -/
namespace Transclusion.Template

variable {o : Options} {mode : Mode} {brackets brackets' cs taken rest w : List Char}

/-! ### Closings -/

/-- The signs that may stand before a closing mark. -/
def Closing.signs (form : Closing) : List (List Char) := if form.plus then [[], ['-'], ['+']] else [[], ['-']]

theorem Closing.mem_signs {form : Closing} {sign : List Char} :
    sign ∈ form.signs ↔ sign = [] ∨ sign = ['-'] ∨ form.plus = true ∧ sign = ['+'] := by
  unfold signs
  cases form.plus <;> simp

namespace Mode

/-- The mark that closes a tag. -/
def endMark : Mode → List Char
  | .block => Delimiters.standard.blockEnd
  | _ => Delimiters.standard.variableEnd

/-- The signs that may stand before the mark that closes a tag. -/
def signs : Mode → List (List Char)
  | .block => [[], ['-'], ['+']]
  | _ => [[], ['-']]

/-- The token of the mark that closes a tag. -/
def endKind : Mode → TokenKind
  | .block => .blockEnd
  | _ => .variableEnd

/-- Which closings of a tag there are. -/
def closing (o : Options) : Mode → Closing
  | .block => o.closing
  | _ => ⟨false, false⟩

theorem exists_endMark (mode : Mode) : ∃ m mark, mode.endMark = m :: mark ∧ isSign m = false := by
  cases mode <;> exact ⟨_, _, rfl, rfl⟩

theorem endMark_cases (mode : Mode) : mode.endMark = ['%', '}'] ∨ mode.endMark = ['}', '}'] := by
  cases mode
  · exact .inr rfl
  · exact .inl rfl
  · exact .inr rfl

@[simp] theorem length_endMark (mode : Mode) : mode.endMark.length = 2 := by
  cases mode <;> rfl

theorem endKind_cases (mode : Mode) : mode.endKind = .blockEnd ∨ mode.endKind = .variableEnd := by
  cases mode
  · exact .inr rfl
  · exact .inl rfl
  · exact .inr rfl

theorem signs_closing (o : Options) (mode : Mode) : (mode.closing o).signs = mode.signs := by
  cases mode <;> rfl

theorem sign_cases {mode : Mode} {sign : List Char} (h : sign ∈ mode.signs) :
    sign = [] ∨ sign = ['-'] ∨ sign = ['+'] := by
  rw [← mode.signs_closing .standard] at h
  exact (Closing.mem_signs.1 h).imp_right (.imp_right And.right)

end Mode

section
variable {form : Closing} {m : Char} {mark : List Char}

/-- Where a closing mark is found it stands, behind a sign that is allowed and before blanks that it takes. -/
theorem closeMark?_eq_some (h : closeMark? form (m :: mark) cs = some (taken, rest)) :
    ∃ sign ∈ form.signs, ∃ eaten, taken = sign ++ m :: mark ++ eaten ∧ cs = taken ++ rest ∧
      ∀ c ∈ eaten, Text.isBlank c = true := by
  have halone (h : (mark? (m :: mark) cs).map form.withLineEnd = some (taken, rest)) :
      ∃ sign ∈ form.signs, ∃ eaten, taken = sign ++ m :: mark ++ eaten ∧ cs = taken ++ rest ∧
        ∀ c ∈ eaten, Text.isBlank c = true := by
    obtain ⟨⟨close, behind⟩, hmark, hfound⟩ := Option.map_eq_some_iff.1 h
    obtain ⟨eaten, after, hsplit, rfl, hblank⟩ := form.withLineEnd_eq close behind
    obtain ⟨rfl, rfl⟩ := Prod.mk.inj (hsplit.symm.trans hfound)
    obtain ⟨rfl, rfl⟩ := mark?_eq hmark
    exact ⟨[], Closing.mem_signs.2 (.inl rfl), eaten, rfl, (List.append_assoc ..).symm, hblank⟩
  cases cs with
  | nil =>
    rw [closeMark?_nil] at h
    exact halone h
  | cons c cs =>
    rw [closeMark?_cons] at h
    split at h
    · next hminus =>
      obtain ⟨rfl, hp⟩ := hminus
      obtain ⟨more, rfl⟩ := List.isPrefixOf_iff_prefix.1 hp
      rw [List.drop_left] at h
      obtain ⟨rfl, rfl⟩ := Prod.mk.inj (Option.some.inj h)
      refine ⟨['-'], Closing.mem_signs.2 (.inr (.inl rfl)), more.takeWhile Text.isBlank, rfl, by simp, ?_⟩
      exact fun c hc => List.mem_takeWhile_imp hc
    · split at h
      · next hplus =>
        obtain ⟨hform, rfl, hp⟩ := hplus
        obtain ⟨more, rfl⟩ := List.isPrefixOf_iff_prefix.1 hp
        rw [List.drop_left] at h
        obtain ⟨rfl, rfl⟩ := Prod.mk.inj (Option.some.inj h)
        exact ⟨['+'], Closing.mem_signs.2 (.inr (.inr ⟨hform, rfl⟩)), [], by simp, by simp, by simp⟩
      · exact halone h

/-- A closing mark is found where it stands, behind a sign that is allowed. -/
theorem closeMark?_append (hm : isSign m = false) {sign : List Char} (hsign : sign ∈ form.signs) (tail : List Char) :
    ∃ eaten after, closeMark? form (m :: mark) (sign ++ m :: mark ++ tail) = some (sign ++ m :: mark ++ eaten, after) ∧
      tail = eaten ++ after ∧ ∀ c ∈ eaten, Text.isBlank c = true := by
  rcases Closing.mem_signs.1 hsign with rfl | rfl | ⟨hform, rfl⟩
  · refine closeMark?_alone ?_ (mark?_append ..)
    rintro c more heq -
    obtain ⟨rfl, -⟩ := List.cons.inj heq
    exact hm
  · refine ⟨tail.takeWhile Text.isBlank, tail.dropWhile Text.isBlank, ?_, List.takeWhile_append_dropWhile.symm,
      fun c hc => List.mem_takeWhile_imp hc⟩
    rw [List.cons_append, List.nil_append, List.cons_append, closeMark?_cons, if_pos ⟨rfl, by simp⟩, List.drop_left]
  · refine ⟨[], tail, ?_, rfl, by simp⟩
    rw [List.cons_append, List.nil_append, List.cons_append, closeMark?_cons, if_neg (by simp),
      if_pos ⟨hform, rfl, by simp⟩, List.drop_left, List.append_nil]

end

/-- The tag closes here. -/
def ClosesAt (mode : Mode) (cs : List Char) : Prop := ∃ sign ∈ mode.signs, sign ++ mode.endMark <+: cs

section
variable (ho : o.delimiters = .standard)
include ho

theorem tagClosing?_eq (cs : List Char) :
    tagClosing? o mode cs =
      (closeMark? (mode.closing o) mode.endMark cs).map fun (taken, rest) => (mode.endKind, taken, rest) := by
  unfold tagClosing?
  rw [ho]
  cases mode <;> rfl

/-- Where the lexer finds the closing of a tag it stands, and perhaps blanks behind it. -/
theorem tagClosing?_eq_some {kind : TokenKind} (h : tagClosing? o mode cs = some (kind, taken, rest)) :
    kind = mode.endKind ∧ ∃ sign ∈ mode.signs, ∃ eaten, taken = sign ++ mode.endMark ++ eaten ∧ cs = taken ++ rest ∧
      ∀ c ∈ eaten, Text.isBlank c = true := by
  rw [tagClosing?_eq ho] at h
  obtain ⟨⟨taken', rest'⟩, hclose, heq⟩ := Option.map_eq_some_iff.1 h
  simp only [Prod.mk.injEq] at heq
  obtain ⟨rfl, rfl, rfl⟩ := heq
  obtain ⟨m, mark, hmark, -⟩ := mode.exists_endMark
  rw [hmark] at hclose
  obtain ⟨sign, hsign, heaten⟩ := closeMark?_eq_some hclose
  rw [mode.signs_closing] at hsign
  rw [hmark]
  exact ⟨rfl, sign, hsign, heaten⟩

/-- The closing of a tag is found where it stands. -/
theorem tagClosing?_append {sign : List Char} (hsign : sign ∈ mode.signs) (tail : List Char) :
    ∃ eaten after, tagClosing? o mode (sign ++ mode.endMark ++ tail) =
        some (mode.endKind, sign ++ mode.endMark ++ eaten, after) ∧
      tail = eaten ++ after ∧ ∀ c ∈ eaten, Text.isBlank c = true := by
  obtain ⟨m, mark, hmark, hm⟩ := mode.exists_endMark
  rw [← mode.signs_closing o] at hsign
  obtain ⟨eaten, after, hclose, htail⟩ := @closeMark?_append _ _ mark hm _ hsign tail
  refine ⟨eaten, after, ?_, htail⟩
  rw [tagClosing?_eq ho, hmark, hclose]
  rfl

theorem tagClosing?_eq_none_iff : tagClosing? o mode cs = none ↔ ¬ ClosesAt mode cs := by
  constructor
  · rintro h ⟨sign, hsign, tail, rfl⟩
    obtain ⟨eaten, after, hclose, -⟩ := tagClosing?_append ho hsign tail
    rw [h] at hclose
    cases hclose
  · intro h
    cases hclose : tagClosing? o mode cs with
    | none => rfl
    | some found =>
      obtain ⟨kind, taken, rest⟩ := found
      obtain ⟨-, sign, hsign, eaten, rfl, rfl, -⟩ := tagClosing?_eq_some ho hclose
      exact absurd ⟨sign, hsign, by rw [List.append_assoc]; exact List.prefix_append ..⟩ h

end

/-! ### Smooth texts -/

/-- Whether a literal, a bracket or a closing may begin with the character. -/
def isSharp (c : Char) : Bool := ['"', '\'', '(', ')', '[', ']', '{', '}', '-', '+', '%'].contains c

/-- In the text neither a literal nor a bracket nor a closing begins: it has signs at most before other characters. -/
inductive Smooth : List Char → Prop where
  | nil : Smooth []
  | char {c : Char} {cs : List Char} : isSharp c = false → Smooth cs → Smooth (c :: cs)
  | sign {c d : Char} {cs : List Char} : isSign c = true → isSharp d = false → Smooth (d :: cs) → Smooth (c :: d :: cs)

theorem Smooth.append {taken' : List Char} (h : Smooth taken) (h' : Smooth taken') : Smooth (taken ++ taken') := by
  induction h with
  | nil => exact h'
  | char hc _ ih => exact .char hc ih
  | sign hc hd _ ih => exact .sign hc hd ih

theorem smooth_of_forall (h : ∀ c ∈ taken, isSharp c = false) : Smooth taken := by
  induction taken with
  | nil => exact .nil
  | cons c taken ih => exact .char (h c (List.mem_cons_self ..)) (ih fun d hd => h d (List.mem_cons_of_mem _ hd))

/-- A class of characters holds none of the sharp ones, if it holds none of the eleven. -/
theorem isSharp_eq_false {p : Char → Bool}
    (hp : (['"', '\'', '(', ')', '[', ']', '{', '}', '-', '+', '%'].all fun c => !p c) = true) {c : Char}
    (hc : p c = true) : isSharp c = false := by
  rw [isSharp, Bool.eq_false_iff]
  intro hmem
  have hnot := List.all_eq_true.1 hp c (List.contains_iff_mem.1 hmem)
  rw [hc] at hnot
  cases hnot

theorem isSharp_of_isBlank {c : Char} (h : Text.isBlank c = true) : isSharp c = false :=
  isSharp_eq_false (by decide) h

theorem isSharp_of_isWordChar {c : Char} (h : Text.isWordChar c = true) : isSharp c = false :=
  isSharp_eq_false (by decide) h

/-- From a text to an end of it, over a smooth stretch. -/
def Glides (cs rest : List Char) : Prop := ∃ taken, cs = taken ++ rest ∧ Smooth taken

theorem Glides.suffix (h : Glides cs rest) : rest <:+ cs := by
  obtain ⟨taken, rfl, -⟩ := h
  exact List.suffix_append ..

theorem glides_dropWhile {p : Char → Bool} (hp : ∀ c, p c = true → isSharp c = false) (cs : List Char) :
    Glides cs (cs.dropWhile p) :=
  ⟨cs.takeWhile p, List.takeWhile_append_dropWhile.symm, smooth_of_forall fun c hc => hp c (List.mem_takeWhile_imp hc)⟩

/-- The same over one character at least, the first of which is not sharp. -/
def Strides (cs rest : List Char) : Prop := ∃ c more, cs = c :: more ∧ isSharp c = false ∧ Glides more rest

theorem Strides.glides (h : Strides cs rest) : Glides cs rest := by
  obtain ⟨c, more, rfl, hc, taken, rfl, htaken⟩ := h
  exact ⟨c :: taken, rfl, .char hc htaken⟩

/-! ### Numbers

What is taken for a number is smooth, and it is within a line. -/

/-- Whether the character is sharp or ends a line. -/
def endsNumber (c : Char) : Bool := isSharp c || c == '\n'

/-- A class of characters that holds neither a line feed nor one of the eleven. -/
theorem endsNumber_eq_false {p : Char → Bool}
    (hp : (['"', '\'', '(', ')', '[', ']', '{', '}', '-', '+', '%'].all fun c => !p c) = true)
    (hfeed : p '\n' = false) {c : Char} (hc : p c = true) : endsNumber c = false := by
  rw [endsNumber, isSharp_eq_false hp hc, Bool.false_or, beq_eq_false_iff_ne]
  rintro rfl
  rw [hfeed] at hc
  cases hc

theorem endsNumber_of_isDecimalDigit {c : Char} (h : isDecimalDigit c = true) : endsNumber c = false :=
  endsNumber_eq_false (by decide) (by decide) h

/-- From a text to an end of it, over a smooth stretch within a line. -/
def GlidesOnLine (cs rest : List Char) : Prop := ∃ taken, cs = taken ++ rest ∧ Smooth taken ∧ '\n' ∉ taken

theorem GlidesOnLine.refl (cs : List Char) : GlidesOnLine cs cs := ⟨[], rfl, .nil, List.not_mem_nil⟩

theorem GlidesOnLine.trans {more : List Char} (h : GlidesOnLine cs more) (h' : GlidesOnLine more rest) :
    GlidesOnLine cs rest := by
  obtain ⟨taken, rfl, htaken, hfeed⟩ := h
  obtain ⟨taken', rfl, htaken', hfeed'⟩ := h'
  refine ⟨taken ++ taken', (List.append_assoc ..).symm, htaken.append htaken', fun hmem => ?_⟩
  exact (List.mem_append.1 hmem).elim hfeed hfeed'

theorem GlidesOnLine.cons {c : Char} (hc : endsNumber c = false) (h : GlidesOnLine cs rest) :
    GlidesOnLine (c :: cs) rest := by
  obtain ⟨taken, rfl, htaken, hfeed⟩ := h
  obtain ⟨hsharp, hne⟩ := Bool.or_eq_false_iff.1 hc
  refine ⟨c :: taken, rfl, .char hsharp htaken, fun hmem => ?_⟩
  exact (List.mem_cons.1 hmem).elim (fun heq => beq_eq_false_iff_ne.1 hne heq.symm) hfeed

theorem glidesOnLine_digitRun {isDigit : Char → Bool} (hdigit : ∀ c, isDigit c = true → endsNumber c = false)
    (cs : List Char) : GlidesOnLine cs (digitRun isDigit cs).2 := by
  induction cs with
  | nil => exact .refl _
  | cons c cs ih =>
    unfold digitRun
    split
    · next hc => exact .cons (hdigit c hc) ih
    · split
      · next hc => exact .cons (hc.1 ▸ by decide) ih
      · exact .refl _

/-- The same over one character at least, the first of which is neither sharp nor a line end. -/
def StridesOnLine (cs rest : List Char) : Prop :=
  ∃ c more, cs = c :: more ∧ endsNumber c = false ∧ GlidesOnLine more rest

theorem StridesOnLine.glidesOnLine (h : StridesOnLine cs rest) : GlidesOnLine cs rest := by
  obtain ⟨c, more, rfl, hc, h⟩ := h
  exact .cons hc h

theorem StridesOnLine.strides (h : StridesOnLine cs rest) : Strides cs rest := by
  obtain ⟨c, more, rfl, hc, taken, hmore, htaken, -⟩ := h
  exact ⟨c, more, rfl, (Bool.or_eq_false_iff.1 hc).1, taken, hmore, htaken⟩

theorem StridesOnLine.ne_nil (h : StridesOnLine cs rest) : cs ≠ [] := by
  obtain ⟨c, more, rfl, -⟩ := h
  exact List.cons_ne_nil c more

theorem StridesOnLine.trans {more : List Char} (h : StridesOnLine cs more) (h' : GlidesOnLine more rest) :
    StridesOnLine cs rest := by
  obtain ⟨c, behind, rfl, hc, h⟩ := h
  exact ⟨c, behind, rfl, hc, h.trans h'⟩

theorem stridesOnLine_digitRun {isDigit : Char → Bool} (hdigit : ∀ c, isDigit c = true → endsNumber c = false)
    (hhead : cs.head?.any isDigit = true) : StridesOnLine cs (digitRun isDigit cs).2 := by
  cases cs with
  | nil => cases hhead
  | cons c more =>
    have hc : isDigit c = true := hhead
    refine ⟨c, more, rfl, hdigit c hc, ?_⟩
    rw [digitRun, if_pos hc]
    exact glidesOnLine_digitRun hdigit more

theorem stridesOnLine_decimalRun? {run : List Char} (h : decimalRun? cs = some (run, rest)) :
    StridesOnLine cs rest := by
  unfold decimalRun? at h
  split at h
  · next hhead =>
    have hrun := stridesOnLine_digitRun (fun c => endsNumber_of_isDecimalDigit) hhead
    rw [Option.some.inj h] at hrun
    exact hrun
  · cases h

/-- A digit stands behind the sign of an exponent. -/
theorem glidesOnLine_cutSign (h : StridesOnLine (cutSign cs).2 rest) : GlidesOnLine cs rest := by
  obtain ⟨hsplit, hsign⟩ := cutSign_eq cs
  obtain ⟨c, more, hcs, hc, taken, rfl, htaken, hfeed⟩ := h
  obtain ⟨hsharp, hne⟩ := Bool.or_eq_false_iff.1 hc
  rw [hcs] at hsplit
  have hfeed' : '\n' ∉ c :: taken := fun hmem =>
    (List.mem_cons.1 hmem).elim (fun heq => beq_eq_false_iff_ne.1 hne heq.symm) hfeed
  refine ⟨(cutSign cs).1 ++ c :: taken, by simpa using hsplit, ?_, fun hmem => ?_⟩
  · rcases sign_cases hsign with hnone | hminus | hplus
    · rw [hnone]
      exact .char hsharp htaken
    · rw [hminus]
      exact .sign rfl hsharp (.char hsharp htaken)
    · rw [hplus]
      exact .sign rfl hsharp (.char hsharp htaken)
  · refine (List.mem_append.1 hmem).elim (fun hmem => ?_) hfeed'
    rcases sign_cases hsign with h | h | h <;> rw [h] at hmem <;> exact absurd hmem (by decide)

theorem glidesOnLine_exponent? {negative : Bool} {run : List Char}
    (h : exponent? cs = some (negative, run, rest)) : GlidesOnLine cs rest := by
  unfold exponent? at h
  split at h
  · next e cs =>
    split at h
    · next he =>
      obtain ⟨⟨run', rest'⟩, hrun, heq⟩ := Option.map_eq_some_iff.1 h
      simp only [Prod.mk.injEq] at heq
      obtain ⟨-, -, rfl⟩ := heq
      exact .cons (by rcases he with rfl | rfl <;> decide) (glidesOnLine_cutSign (stridesOnLine_decimalRun? hrun))
    · cases h
  · cases h

theorem glidesOnLine_fraction? {run : List Char} (h : fraction? cs = some (run, rest)) : GlidesOnLine cs rest := by
  unfold fraction? at h
  split at h
  · exact .cons (by decide) (stridesOnLine_decimalRun? h).glidesOnLine
  · cases h

theorem stridesOnLine_numeral? {n : Numeral} (h : numeral? cs = some (n, rest)) : StridesOnLine cs rest := by
  unfold numeral? at h
  obtain ⟨⟨whole, more⟩, hwhole, h⟩ := Option.bind_eq_some_iff.1 h
  have hmore := stridesOnLine_decimalRun? hwhole
  simp only at h
  split at h
  · next hfraction =>
    have hbehind := hmore.trans (glidesOnLine_fraction? hfraction)
    split at h
    · next hexponent =>
      obtain ⟨-, rfl⟩ := Prod.mk.inj (Option.some.inj h)
      exact hbehind.trans (glidesOnLine_exponent? hexponent)
    · obtain ⟨-, rfl⟩ := Prod.mk.inj (Option.some.inj h)
      exact hbehind
  · obtain ⟨⟨negative, run, rest'⟩, hexponent, heq⟩ := Option.map_eq_some_iff.1 h
    obtain ⟨-, rfl⟩ := Prod.mk.inj heq
    exact hmore.trans (glidesOnLine_exponent? hexponent)

theorem glidesOnLine_basedRun? {base : Nat} {kind : TokenKind} (h : basedRun? base cs = some (kind, rest)) :
    GlidesOnLine cs rest := by
  have hdigit : ∀ c, (if base = 16 then (anyDigit? c).isSome else (digitValue? c).any (· < base)) = true →
      endsNumber c = false := by
    intro c hc
    split at hc
    · exact endsNumber_eq_false (p := fun c => (anyDigit? c).isSome) (by decide) (by decide) hc
    · have hsome : (digitValue? c).isSome = true := by
        cases hvalue : digitValue? c with
        | none => simp [hvalue] at hc
        | some d => rfl
      exact endsNumber_eq_false (p := fun c => (digitValue? c).isSome) (by decide) (by decide) hsome
  have hrun := glidesOnLine_digitRun hdigit cs
  unfold basedRun? at h
  simp only at h
  generalize (fun c => if base = 16 then (anyDigit? c).isSome else (digitValue? c).any (· < base)) = isDigit
    at h hrun
  split at h
  · cases h
  · obtain ⟨-, rfl⟩ := Prod.mk.inj (Option.some.inj h)
    exact hrun

theorem isDecimalDigit_of_isDigit {c : Char} (h : c.isDigit = true) : isDecimalDigit c = true := by
  rw [isDecimalDigit, Text.decimalDigit?, if_pos h]
  rfl

theorem stridesOnLine_integer? {kind : TokenKind} (h : integer? cs = some (kind, rest)) : StridesOnLine cs rest := by
  unfold integer? at h
  split at h
  · next behind =>
    refine ⟨'0', behind, rfl, by decide, ?_⟩
    simp only at h
    split at h
    · next found hbased =>
      obtain rfl := Option.some.inj h
      split at hbased
      · next letter more =>
        split at hbased
        · next hb =>
          have hletter := endsNumber_eq_false (p := (·.toLower == 'b')) (by decide) (by decide) (beq_iff_eq.2 hb)
          exact .cons hletter (glidesOnLine_basedRun? hbased)
        · next ho =>
          have hletter := endsNumber_eq_false (p := (·.toLower == 'o')) (by decide) (by decide) (beq_iff_eq.2 ho)
          exact .cons hletter (glidesOnLine_basedRun? hbased)
        · next hx =>
          have hletter := endsNumber_eq_false (p := (·.toLower == 'x')) (by decide) (by decide) (beq_iff_eq.2 hx)
          exact .cons hletter (glidesOnLine_basedRun? hbased)
        · cases hbased
      · cases hbased
    · obtain ⟨-, rfl⟩ := Prod.mk.inj (Option.some.inj h)
      exact @glidesOnLine_digitRun (· == '0') (fun c hc => beq_iff_eq.1 hc ▸ by decide) behind
  · next c behind _ =>
    split at h
    · next hdigit =>
      obtain ⟨-, rfl⟩ := Prod.mk.inj (Option.some.inj h)
      exact stridesOnLine_digitRun (fun c => endsNumber_of_isDecimalDigit) (isDecimalDigit_of_isDigit hdigit)
    · cases h
  · cases h

/-! ### Steps within a tag -/

/-- Whether tokens of the kind stand within tags. -/
def TokenKind.isInner : TokenKind → Bool
  | .name _ | .string _ | .integer _ | .float _ | .symbol _ => true
  | _ => false

/-- A literal is opened by one of two marks. -/
def IsQuote (c : Char) : Prop := c = '"' ∨ c = '\''

/-- What the lexer takes for one token within a tag, or for none: a smooth text, a literal, or a symbol that is
no closing. -/
inductive Passes (mode : Mode) (brackets : List Char) : (brackets' cs rest : List Char) → Prop where
  | smooth {cs rest : List Char} : Strides cs rest → Passes mode brackets brackets cs rest
  | literal {mark : Char} {lit body rest : List Char} : IsQuote mark → literalBody? mark lit = some (body, []) →
    Passes mode brackets brackets (mark :: lit ++ rest) rest
  | symbol {c : Char} {brackets' taken rest : List Char} : ¬ IsQuote c →
    (brackets = [] → ¬ ClosesAt mode (c :: taken ++ rest)) → bracketsAfter brackets [c] = .ok brackets' →
    Smooth taken → Passes mode brackets brackets' (c :: taken ++ rest) rest

theorem Passes.length_lt (h : Passes mode brackets brackets' cs rest) : rest.length < cs.length := by
  cases h with
  | smooth h =>
    obtain ⟨c, more, rfl, -, h⟩ := h
    exact Nat.lt_succ_of_le h.suffix.length_le
  | literal _ _ =>
    simp only [List.length_cons, List.length_append]
    omega
  | symbol _ _ _ _ =>
    simp only [List.length_cons, List.length_append]
    omega

theorem IsQuote.ne_backslash {mark : Char} (h : IsQuote mark) : mark ≠ '\\' := by
  rcases h with rfl | rfl <;> decide

/-- A literal behind its first mark, to its second one, and what stands between them. -/
inductive IsLiteral (mark : Char) : (lit body : List Char) → Prop where
  | close : IsLiteral mark [mark] []
  | escape {c : Char} {lit body : List Char} : IsLiteral mark lit body →
    IsLiteral mark ('\\' :: c :: lit) ('\\' :: c :: body)
  | char {c : Char} {lit body : List Char} : c ≠ '\\' → c ≠ mark → IsLiteral mark lit body →
    IsLiteral mark (c :: lit) (c :: body)

theorem exists_literal_of_literalBody? {mark : Char} {body : List Char} (h : literalBody? mark cs = some (body, rest)) :
    ∃ lit, cs = lit ++ rest ∧ IsLiteral mark lit body := by
  fun_induction literalBody? mark cs generalizing body with
  | case1 => cases h
  | case2 c cs ih =>
    obtain ⟨⟨b, r⟩, hbody, heq⟩ := Option.map_eq_some_iff.1 h
    obtain ⟨rfl, rfl⟩ := Prod.mk.inj heq
    obtain ⟨lit, rfl, hlit⟩ := ih hbody
    exact ⟨_, rfl, .escape hlit⟩
  | case3 cs =>
    obtain ⟨rfl, rfl⟩ := Prod.mk.inj (Option.some.inj h)
    exact ⟨_, rfl, .close⟩
  | case4 => cases h
  | case5 c cs _ hne hc ih =>
    obtain ⟨⟨b, r⟩, hbody, heq⟩ := Option.map_eq_some_iff.1 h
    obtain ⟨rfl, rfl⟩ := Prod.mk.inj heq
    obtain ⟨lit, rfl, hlit⟩ := ih hbody
    exact ⟨_, rfl, .char hc hne hlit⟩

/-- A literal is read up to its second mark, whatever stands behind it. -/
theorem IsLiteral.literalBody? {mark : Char} (hmark : IsQuote mark) {lit body : List Char} (h : IsLiteral mark lit body)
    (rest : List Char) : literalBody? mark (lit ++ rest) = some (body, rest) := by
  induction h with
  | close =>
    rw [List.cons_append, literalBody?_cons hmark.ne_backslash, if_pos rfl]
    rfl
  | escape _ ih =>
    rw [List.cons_append, List.cons_append, Template.literalBody?, ih]
    rfl
  | char hc hne _ ih =>
    rw [List.cons_append, literalBody?_cons hc, if_neg hne, ih]
    rfl

theorem isLiteral_iff {mark : Char} (hmark : IsQuote mark) {lit body : List Char} :
    IsLiteral mark lit body ↔ literalBody? mark lit = some (body, []) := by
  refine ⟨fun h => by simpa using h.literalBody? hmark [], fun h => ?_⟩
  obtain ⟨lit', rfl, hlit⟩ := exists_literal_of_literalBody? h
  rwa [List.append_nil]

/-- What is read of a literal is a literal of its own, whatever stands behind it. -/
theorem literalBody?_eq_some_iff {mark : Char} (hmark : IsQuote mark) {body : List Char} :
    literalBody? mark cs = some (body, rest) ↔ ∃ lit, cs = lit ++ rest ∧ literalBody? mark lit = some (body, []) := by
  constructor
  · intro h
    obtain ⟨lit, rfl, hlit⟩ := exists_literal_of_literalBody? h
    exact ⟨lit, rfl, (isLiteral_iff hmark).1 hlit⟩
  · rintro ⟨lit, rfl, hlit⟩
    exact ((isLiteral_iff hmark).2 hlit).literalBody? hmark rest

/-- A character that is not sharp opens and closes no bracket. -/
theorem bracketsAfter_eq {c : Char} (hc : isSharp c = false) : bracketsAfter brackets [c] = .ok brackets := by
  have hne {d : Char} (hd : isSharp d = true) : c ≠ d := by
    rintro rfl
    rw [hc] at hd
    cases hd
  have hopen : closingOf? c = none := by
    simp [closingOf?, List.lookup_cons, beq_eq_false_iff_ne.2 (hne (d := '(') rfl),
      beq_eq_false_iff_ne.2 (hne (d := '[') rfl), beq_eq_false_iff_ne.2 (hne (d := '{') rfl)]
  simp [bracketsAfter, hopen, hne (d := ')') rfl, hne (d := ']') rfl, hne (d := '}') rfl]

/-- Of a symbol only the first character may be sharp, and only if it is the only one. -/
theorem exists_of_mem_symbols {symbol : List Char} (h : symbol ∈ symbols) :
    ∃ c taken, symbol = c :: taken ∧ ¬ IsQuote c ∧ Smooth taken ∧
      ∀ brackets, bracketsAfter brackets symbol = bracketsAfter brackets [c] := by
  have hall : ∀ symbol ∈ symbols, symbol ≠ [] ∧ '"' ∉ symbol ∧ '\'' ∉ symbol ∧
      (symbol.length = 1 ∨ symbol.all (fun c => !isSharp c) = true) := by
    decide
  obtain ⟨hne, hquote, hquote', hshape⟩ := hall symbol h
  obtain ⟨c, taken, rfl⟩ := List.exists_cons_of_ne_nil hne
  have hc : ¬ IsQuote c := by
    rintro (rfl | rfl)
    · exact hquote (List.mem_cons_self ..)
    · exact hquote' (List.mem_cons_self ..)
  refine ⟨c, taken, rfl, hc, ?_⟩
  rcases hshape with hone | hsharp
  · obtain rfl : taken = [] := List.eq_nil_of_length_eq_zero (Nat.succ.inj hone)
    exact ⟨.nil, fun _ => rfl⟩
  · have hsharp : ∀ d ∈ c :: taken, isSharp d = false := by simpa using hsharp
    refine ⟨smooth_of_forall fun d hd => hsharp d (List.mem_cons_of_mem _ hd), fun brackets => ?_⟩
    rw [bracketsAfter_eq (hsharp c (List.mem_cons_self ..))]
    cases taken with
    | nil => exact bracketsAfter_eq (hsharp c (List.mem_cons_self ..))
    | cons d more => rfl

theorem Numeral.token_cases (n : Numeral) : (∃ x, n.token = .float x) ∨ ∃ fault, n.token = .broken fault := by
  unfold token
  simp only
  split
  · exact .inl ⟨_, rfl⟩
  · exact .inr ⟨_, rfl⟩

theorem integer?_cases {kind : TokenKind} (h : integer? cs = some (kind, rest)) :
    (∃ n, kind = .integer n) ∨ ∃ fault, kind = .broken fault := by
  have hdecimal (run : List Char) :
      (∃ n, decimalToken run = .integer n) ∨ ∃ fault, decimalToken run = .broken fault := by
    unfold decimalToken
    simp only
    split
    · exact .inr ⟨_, rfl⟩
    · exact .inl ⟨_, rfl⟩
  have hbased {base : Nat} {cs : List Char} (h : basedRun? base cs = some (kind, rest)) : ∃ n, kind = .integer n := by
    unfold basedRun? at h
    simp only at h
    generalize (fun c => if base = 16 then (anyDigit? c).isSome else (digitValue? c).any (· < base)) = isDigit at h
    split at h <;> cases h
    exact ⟨_, rfl⟩
  unfold integer? at h
  split at h
  · simp only at h
    split at h
    · next found hfound =>
      obtain rfl := Option.some.inj h
      split at hfound
      · split at hfound
        · exact .inl (hbased hfound)
        · exact .inl (hbased hfound)
        · exact .inl (hbased hfound)
        · cases hfound
      · cases hfound
    · obtain ⟨rfl, -⟩ := Prod.mk.inj (Option.some.inj h)
      exact hdecimal _
  · split at h
    · obtain ⟨rfl, -⟩ := Prod.mk.inj (Option.some.inj h)
      exact hdecimal _
    · cases h
  · cases h

theorem wordToken_cases (word : List Char) :
    wordToken word = .name (String.ofList word) ∨ ∃ fault, wordToken word = .broken fault := by
  unfold wordToken
  split
  · exact .inl rfl
  · exact .inr ⟨_, rfl⟩

/-- A word stands first in a text, behind blanks, and ends there. -/
def BeginsWord (word cs : List Char) : Prop :=
  ∃ blanks d more, cs = blanks ++ word ++ d :: more ∧ (∀ c ∈ blanks, Text.isBlank c = true) ∧ Text.isWordChar d = false

theorem BeginsWord.behind_blanks {word blanks : List Char} (h : BeginsWord word cs)
    (hblanks : ∀ c ∈ blanks, Text.isBlank c = true) : BeginsWord word (blanks ++ cs) := by
  obtain ⟨blanks', d, more, rfl, hblanks', hd⟩ := h
  exact ⟨blanks ++ blanks', d, more, by simp, fun c hc => (List.mem_append.1 hc).elim (hblanks c) (hblanks' c), hd⟩

/-- The kinds of tokens that are numbers. -/
def TokenKind.IsNumber : TokenKind → Prop
  | .integer _ | .float _ => True
  | _ => False

theorem TokenKind.IsNumber.isInner {kind : TokenKind} (h : kind.IsNumber) : kind.isInner = true := by
  cases kind <;> first | rfl | exact h.elim

theorem TokenKind.IsNumber.ne_name {kind : TokenKind} (h : kind.IsNumber) (n : String) : kind ≠ .name n := by
  rintro rfl
  exact h

/-- What a step within a tag passes that stays in the tag: blanks for no token, or what is one token. -/
structure Steps (c next : Cursor) (tokens : List Token) : Prop where
  mode : next.mode = c.mode
  passes : Passes c.mode c.brackets next.brackets c.rest next.rest
  inner : ∀ t ∈ tokens, t.kind.isInner = true
  blanks : tokens = [] → ∃ blanks, c.rest = blanks ++ next.rest ∧ ∀ d ∈ blanks, Text.isBlank d = true
  name : ∀ t ∈ tokens, ∀ n, t.kind = .name n → IsRun n.toList ∧ c.rest = n.toList ++ next.rest ∧
    ∀ d, next.rest.head? = some d → Text.isWordChar d = false

/-- What a step within a tag passes that leaves the tag: its closing. -/
structure Closes (c next : Cursor) (tokens : List Token) : Prop where
  brackets : c.brackets = []
  tokens : tokens = [⟨c.line, c.mode.endKind⟩]
  closing : ∃ sign ∈ c.mode.signs, ∃ eaten, c.rest = sign ++ c.mode.endMark ++ eaten ++ next.rest ∧
    (∀ d ∈ eaten, Text.isBlank d = true) ∧ next = .behind c.line (sign ++ c.mode.endMark ++ eaten) next.rest

/-- A token other than a name, for which something is passed. -/
theorem steps_token {c : Cursor} {kind : TokenKind} {line : Nat} {brackets : List Char} (hkind : kind.isInner = true)
    (hname : ∀ n, kind ≠ .name n) (h : Passes c.mode c.brackets brackets c.rest rest) :
    Steps c ⟨c.mode, brackets, line, rest⟩ [⟨c.line, kind⟩] :=
  ⟨rfl, h, by simpa using hkind, by simp, by simpa using fun n hn => absurd hn (hname n)⟩

/-- Blanks are passed for no token. -/
theorem steps_blanks {c : Cursor} {line : Nat} {d : Char} {cs : List Char} (hrest : c.rest = d :: cs)
    (hd : Text.isBlank d = true) :
    Steps c ⟨c.mode, c.brackets, line, c.rest.dropWhile Text.isBlank⟩ [] := by
  refine ⟨rfl, .smooth ⟨d, cs, hrest, isSharp_of_isBlank hd, ?_⟩, by simp, fun _ => ?_, by simp⟩
  · rw [hrest, List.dropWhile_cons_of_pos hd]
    exact glides_dropWhile (fun d => isSharp_of_isBlank) cs
  · exact ⟨_, List.takeWhile_append_dropWhile.symm, fun d hd => List.mem_takeWhile_imp hd⟩

/-- A word is passed for a name. -/
theorem steps_word {c : Cursor} {line : Nat} {d : Char} {cs : List Char} (hrest : c.rest = d :: cs)
    (hd : Text.isWordChar d = true) :
    Steps c ⟨c.mode, c.brackets, line, c.rest.dropWhile Text.isWordChar⟩
      [⟨c.line, .name (String.ofList (c.rest.takeWhile Text.isWordChar))⟩] := by
  refine ⟨rfl, .smooth ⟨d, cs, hrest, isSharp_of_isWordChar hd, ?_⟩, by simp [TokenKind.isInner], by simp, ?_⟩
  · rw [hrest, List.dropWhile_cons_of_pos hd]
    exact glides_dropWhile (fun d => isSharp_of_isWordChar) cs
  · have hends : ∀ d, (c.rest.dropWhile Text.isWordChar).head? = some d → Text.isWordChar d = false := by
      intro d hd
      have hhead := List.head?_dropWhile_not Text.isWordChar c.rest
      rwa [hd] at hhead
    have hrun : IsRun (c.rest.takeWhile Text.isWordChar) :=
      ⟨by simp [hrest, hd], fun d hd => List.mem_takeWhile_imp hd⟩
    simpa using ⟨hrun, hends⟩

/-- What a step within a tag comes to, by what stands there. -/
inductive StepsTo (c : Cursor) : Move → Prop where
  | closing {sign eaten rest : List Char} : c.brackets = [] → sign ∈ c.mode.signs →
    c.rest = sign ++ c.mode.endMark ++ eaten ++ rest → (∀ d ∈ eaten, Text.isBlank d = true) →
    StepsTo c (.go [⟨c.line, c.mode.endKind⟩] (.behind c.line (sign ++ c.mode.endMark ++ eaten) rest))
  | finish : c.rest = [] → StepsTo c (.halt [])
  | blanks {d : Char} {cs : List Char} : c.rest = d :: cs → Text.isBlank d = true →
    StepsTo c (.go [] ⟨c.mode, c.brackets, c.line + Text.lineFeeds (c.rest.takeWhile Text.isBlank),
      c.rest.dropWhile Text.isBlank⟩)
  | number {kind : TokenKind} {rest : List Char} : kind.IsNumber → StridesOnLine c.rest rest →
    StepsTo c (.go [⟨c.line, kind⟩] ⟨c.mode, c.brackets, c.line, rest⟩)
  | word {d : Char} {cs : List Char} : c.rest = d :: cs → Text.isWordChar d = true →
    StepsTo c (.go [⟨c.line, .name (String.ofList (c.rest.takeWhile Text.isWordChar))⟩]
      ⟨c.mode, c.brackets, c.line, c.rest.dropWhile Text.isWordChar⟩)
  | literal {mark : Char} {lit body rest : List Char} (text : String) : IsQuote mark →
    IsLiteral mark lit body → c.rest = mark :: lit ++ rest →
    StepsTo c (.go [⟨c.line, .string text⟩] ⟨c.mode, c.brackets, c.line + Text.lineFeeds body, rest⟩)
  | symbol {symbol brackets rest : List Char} : symbol ∈ symbols → c.rest = symbol ++ rest →
    (c.brackets = [] → ¬ ClosesAt c.mode c.rest) → bracketsAfter c.brackets symbol = .ok brackets →
    StepsTo c (.go [⟨c.line, .symbol (String.ofList symbol)⟩] ⟨c.mode, brackets, c.line, rest⟩)
  | broken (fault : LexicalFault) : c.rest ≠ [] → StepsTo c (.halt [⟨c.line, .broken fault⟩])

section
variable (ho : o.delimiters = .standard) {size : Nat} {afterPoint : Bool} {c next : Cursor} {tokens : List Token}
include ho

theorem stepsTo_tagMove : StepsTo c (tagMove o size afterPoint c) := by
  unfold tagMove
  simp only
  split
  · next kind taken behind hopen =>
    split at hopen
    · next hbrackets =>
      obtain ⟨rfl, sign, hsign, eaten, rfl, hrest, heaten⟩ := tagClosing?_eq_some ho hopen
      exact .closing hbrackets hsign hrest heaten
    · cases hopen
  rename_i hopen
  have hopens : c.brackets = [] → ¬ ClosesAt c.mode c.rest := by
    intro hbrackets
    rw [if_pos hbrackets] at hopen
    exact (tagClosing?_eq_none_iff ho).1 hopen
  -- No closing stands here, and so what stands here is tried in the order of the lexer.
  split
  · next hnil => exact .finish hnil
  rename_i ch cs hcs
  have hne : c.rest ≠ [] := by simp [hcs]
  split
  · next hblank => exact .blanks hcs hblank
  split
  · next n rest hnumeral =>
    split at hnumeral
    · cases hnumeral
    · rcases n.token_cases with ⟨x, htoken⟩ | ⟨fault, htoken⟩ <;> rw [htoken]
      · exact .number trivial (stridesOnLine_numeral? hnumeral)
      · exact .broken fault hne
  split
  · next kind rest hinteger =>
    rcases integer?_cases hinteger with ⟨n, rfl⟩ | ⟨fault, rfl⟩
    · exact .number trivial (stridesOnLine_integer? hinteger)
    · exact .broken fault hne
  split
  · next hword =>
    rcases wordToken_cases (c.rest.takeWhile Text.isWordChar) with htoken | ⟨fault, htoken⟩ <;> rw [htoken]
    · exact .word hcs hword
    · exact .broken fault hne
  split
  · next body rest hbody =>
    split at hbody
    · next hquote =>
      obtain ⟨lit, rfl, hlit⟩ := exists_literal_of_literalBody? hbody
      split
      · exact .literal _ hquote hlit hcs
      · exact .broken _ hne
    · cases hbody
  split
  · next symbol hsymbol =>
    have hprefix : symbol.isPrefixOf c.rest = true := by simpa using List.find?_some hsymbol
    obtain ⟨behind, hrest⟩ := List.isPrefixOf_iff_prefix.1 hprefix
    split
    · next brackets hafter =>
      have hdrop : c.rest.drop symbol.length = behind := by rw [← hrest, List.drop_left]
      rw [hdrop]
      exact .symbol (List.mem_of_find?_eq_some hsymbol) hrest.symm hopens hafter
    · exact .broken _ hne
  · exact .broken _ hne

/-- Over one token within a tag the lexer leaves the tag or stays in it. -/
theorem tagMove_go (h : tagMove o size afterPoint c = .go tokens next) :
    Closes c next tokens ∨ Steps c next tokens := by
  have hto : StepsTo c (tagMove o size afterPoint c) := stepsTo_tagMove ho
  rw [h] at hto
  cases hto with
  | closing hbrackets hsign hrest heaten =>
    exact .inl ⟨hbrackets, rfl, _, hsign, _, hrest, heaten, rfl⟩
  | blanks hrest hblank => exact .inr (steps_blanks hrest hblank)
  | number hkind hstrides =>
    exact .inr (steps_token hkind.isInner hkind.ne_name (.smooth hstrides.strides))
  | word hrest hword => exact .inr (steps_word hrest hword)
  | literal text hquote hlit hrest =>
    exact .inr (steps_token rfl (by simp) (hrest ▸ .literal hquote ((isLiteral_iff hquote).1 hlit)))
  | symbol hsymbol hrest hopens hafter =>
    obtain ⟨d, taken, rfl, hquote, htaken, hbrackets⟩ := exists_of_mem_symbols hsymbol
    rw [hbrackets] at hafter
    rw [hrest] at hopens
    exact .inr (steps_token rfl (by simp) (hrest ▸ .symbol hquote hopens hafter htaken))

/-- Where the lexer cannot go on within a tag, the text ends or cannot be read. -/
theorem tagMove_halt (h : tagMove o size afterPoint c = .halt tokens) (hrest : c.rest ≠ []) :
    ∃ fault, tokens = [⟨c.line, .broken fault⟩] := by
  have hto : StepsTo c (tagMove o size afterPoint c) := stepsTo_tagMove ho
  rw [h] at hto
  cases hto with
  | finish hnil => exact absurd hnil hrest
  | broken fault => exact ⟨fault, rfl⟩

end

/-! ### Insides -/

/-- A text from within a tag, where brackets are open, to its closing: literals, and other characters that are
brackets or none, without a closing where no bracket is open. -/
inductive Inside (mode : Mode) : (brackets w : List Char) → Prop where
  | closing {sign : List Char} : sign ∈ mode.signs → Inside mode [] (sign ++ mode.endMark)
  | literal {brackets : List Char} {mark : Char} {lit body w : List Char} : IsQuote mark →
    literalBody? mark lit = some (body, []) → Inside mode brackets w → Inside mode brackets (mark :: lit ++ w)
  | char {brackets brackets' : List Char} {c : Char} {w : List Char} : ¬ IsQuote c →
    (brackets = [] → ¬ ClosesAt mode (c :: w)) → bracketsAfter brackets [c] = .ok brackets' →
    Inside mode brackets' w → Inside mode brackets (c :: w)

theorem ClosesAt.append (h : ClosesAt mode cs) (tail : List Char) : ClosesAt mode (cs ++ tail) := by
  obtain ⟨sign, hsign, hp⟩ := h
  exact ⟨sign, hsign, hp.trans (List.prefix_append ..)⟩

/-- A closing has three characters at most. -/
theorem ClosesAt.of_append {tail : List Char} (h : ClosesAt mode (cs ++ tail)) (hlength : 3 ≤ cs.length) :
    ClosesAt mode cs := by
  obtain ⟨sign, hsign, hp⟩ := h
  refine ⟨sign, hsign, List.prefix_of_prefix_length_le hp (List.prefix_append ..) ?_⟩
  have hlen : sign.length ≤ 1 := by rcases Mode.sign_cases hsign with rfl | rfl | rfl <;> decide
  rw [List.length_append, mode.length_endMark]
  omega

/-- A closing begins with a sharp character other than a quote, and goes on with another if this is a sign. -/
theorem ClosesAt.head {c : Char} (h : ClosesAt mode (c :: cs)) :
    isSharp c = true ∧ ¬ IsQuote c ∧ (isSign c = true → ∃ d more, cs = d :: more ∧ isSharp d = true) := by
  obtain ⟨sign, hsign, more, hcs⟩ := h
  rcases Mode.sign_cases hsign with rfl | rfl | rfl <;> rcases mode.endMark_cases with hmark | hmark <;>
    rw [hmark] at hcs <;> obtain ⟨rfl, hbehind⟩ := List.cons.inj hcs
  all_goals
    refine ⟨rfl, by simp [IsQuote], fun hc => ?_⟩
    first
      | exact absurd hc (by decide)
      | exact ⟨_, _, hbehind.symm, rfl⟩

theorem not_isQuote_of_not_isSharp {c : Char} (hc : isSharp c = false) : ¬ IsQuote c := by
  rintro (rfl | rfl) <;> cases hc

theorem not_isQuote_of_isSign {c : Char} (hc : isSign c = true) : ¬ IsQuote c := by
  rintro (rfl | rfl) <;> cases hc

theorem not_closesAt_of_not_isSharp {c : Char} (hc : isSharp c = false) : ¬ ClosesAt mode (c :: cs) := by
  intro hcloses
  rw [hcloses.head.1] at hc
  cases hc

theorem not_closesAt_of_isSign {c d : Char} (hc : isSign c = true) (hd : isSharp d = false) :
    ¬ ClosesAt mode (c :: d :: cs) := by
  intro hcloses
  obtain ⟨e, more, heq, he⟩ := hcloses.head.2.2 hc
  obtain ⟨rfl, -⟩ := List.cons.inj heq
  rw [hd] at he
  cases he

namespace Inside

theorem length_le (h : Inside mode brackets w) : 2 ≤ w.length := by
  induction h with
  | closing hsign =>
    rw [List.length_append, mode.length_endMark]
    omega
  | literal _ _ _ ih =>
    rw [List.length_append]
    omega
  | char _ _ _ _ ih =>
    rw [List.length_cons]
    omega

theorem ne_nil (h : Inside mode brackets w) : w ≠ [] := by
  rintro rfl
  exact absurd h.length_le (by decide)

/-- A smooth text before an inside. -/
theorem smooth (h : Inside mode brackets w) (htaken : Smooth taken) : Inside mode brackets (taken ++ w) := by
  induction htaken with
  | nil => exact h
  | char hc _ ih =>
    exact .char (not_isQuote_of_not_isSharp hc) (fun _ => not_closesAt_of_not_isSharp hc) (bracketsAfter_eq hc) ih
  | sign hc hd _ ih =>
    refine .char (not_isQuote_of_isSign hc) (fun _ => not_closesAt_of_isSign hc hd) ?_ ih
    rcases isSign_cases hc with rfl | rfl <;> rfl

/-- What begins with the character of an inside that is no quote and no closing goes on with the rest of it. -/
theorem of_char {c : Char} {tail : List Char} (h : Inside mode brackets w) (hw : w ++ tail = c :: rest)
    (hquote : ¬ IsQuote c) (hcloses : brackets = [] → ¬ ClosesAt mode (c :: rest)) :
    ∃ brackets' w', bracketsAfter brackets [c] = .ok brackets' ∧ w = c :: w' ∧ rest = w' ++ tail ∧
      Inside mode brackets' w' := by
  cases h with
  | closing hsign =>
    rw [← hw] at hcloses
    exact absurd ⟨_, hsign, List.prefix_append ..⟩ (hcloses rfl)
  | literal hmark _ _ =>
    obtain ⟨rfl, -⟩ := List.cons.inj hw
    exact absurd hmark hquote
  | char _ _ hbrackets h =>
    obtain ⟨rfl, rfl⟩ := List.cons.inj hw
    exact ⟨_, _, hbrackets, rfl, rfl, h⟩

/-- What begins with a smooth text where an inside begins goes on with the rest of it. -/
theorem of_smooth {tail : List Char} (h : Inside mode brackets w) (hw : w ++ tail = taken ++ rest)
    (htaken : Smooth taken) : ∃ w', w = taken ++ w' ∧ rest = w' ++ tail ∧ Inside mode brackets w' := by
  induction htaken generalizing w with
  | nil => exact ⟨w, rfl, hw.symm, h⟩
  | char hc _ ih =>
    obtain ⟨brackets', w', hbrackets, rfl, hrest, h⟩ :=
      h.of_char hw (not_isQuote_of_not_isSharp hc) fun _ => not_closesAt_of_not_isSharp hc
    rw [bracketsAfter_eq hc] at hbrackets
    obtain rfl := Except.ok.inj hbrackets
    obtain ⟨w'', rfl, hrest, h⟩ := ih h hrest.symm
    exact ⟨w'', rfl, hrest, h⟩
  | sign hc hd _ ih =>
    obtain ⟨brackets', w', hbrackets, rfl, hrest, h⟩ :=
      h.of_char hw (not_isQuote_of_isSign hc) fun _ => not_closesAt_of_isSign hc hd
    obtain rfl : brackets = brackets' := by rcases isSign_cases hc with rfl | rfl <;> exact Except.ok.inj hbrackets
    obtain ⟨w'', rfl, hrest, h⟩ := ih h hrest.symm
    exact ⟨w'', rfl, hrest, h⟩

/-- A step within a tag from an inside leads to an inside. -/
theorem passes {tail : List Char} (h : Inside mode brackets w)
    (hpasses : Passes mode brackets brackets' (w ++ tail) rest) :
    ∃ w', rest = w' ++ tail ∧ Inside mode brackets' w' := by
  generalize hw : w ++ tail = cs at hpasses
  cases hpasses with
  | smooth hstrides =>
    obtain ⟨taken, rfl, htaken⟩ := hstrides.glides
    obtain ⟨w', -, hrest, h⟩ := h.of_smooth hw htaken
    exact ⟨w', hrest, h⟩
  | @literal mark lit body _ hmark hlit =>
    cases h with
    | closing hsign =>
      have hcloses : ClosesAt mode _ := ⟨_, hsign, tail, hw⟩
      exact absurd hmark hcloses.head.2.1
    | @literal _ _ lit' body' w hmark' hlit' h =>
      rw [List.append_assoc] at hw
      obtain ⟨rfl, hbehind⟩ := List.cons.inj hw
      -- There is one way to read a literal.
      have hread := (@literalBody?_eq_some_iff (lit ++ rest) _ _ hmark _).2 ⟨lit', hbehind.symm, hlit'⟩
      rw [(literalBody?_eq_some_iff hmark).2 ⟨lit, rfl, hlit⟩] at hread
      exact ⟨w, (Prod.mk.inj (Option.some.inj hread)).2, h⟩
    | char hquote _ _ _ =>
      obtain ⟨rfl, -⟩ := List.cons.inj hw
      exact absurd hmark hquote
  | symbol hquote hcloses hbrackets htaken =>
    obtain ⟨brackets'', w', hbrackets', rfl, hrest, h⟩ := h.of_char hw hquote hcloses
    rw [hbrackets] at hbrackets'
    obtain rfl := Except.ok.inj hbrackets'
    obtain ⟨w'', -, hrest, h⟩ := h.of_smooth hrest.symm htaken
    exact ⟨w'', hrest, h⟩

/-- A step within a tag to an inside comes from an inside. -/
theorem of_passes {tail : List Char} (h : Inside mode brackets' w)
    (hpasses : Passes mode brackets brackets' cs (w ++ tail)) : ∃ w', cs = w' ++ tail ∧ Inside mode brackets w' := by
  generalize hrest : w ++ tail = rest at hpasses
  cases hpasses with
  | smooth hstrides =>
    obtain ⟨taken, rfl, htaken⟩ := hstrides.glides
    exact ⟨taken ++ w, by rw [← hrest, List.append_assoc], h.smooth htaken⟩
  | @literal mark lit body _ hmark hlit =>
    exact ⟨mark :: lit ++ w, by rw [← hrest, List.append_assoc], .literal hmark hlit h⟩
  | @symbol c _ taken _ hquote hcloses hbrackets htaken =>
    refine ⟨c :: taken ++ w, by rw [← hrest, List.append_assoc],
      .char hquote (fun hnil hat => ?_) hbrackets (h.smooth htaken)⟩
    have hat := hat.append tail
    rw [← hrest] at hcloses
    exact hcloses hnil (by simpa using hat)

/-- Where an inside begins with a closing it is one. -/
theorem of_closing {sign tail : List Char} (h : Inside mode [] w) (hsign : sign ∈ mode.signs)
    (hw : w ++ tail = sign ++ mode.endMark ++ rest) : w = sign ++ mode.endMark ∧ tail = rest := by
  have hat : ClosesAt mode (w ++ tail) := ⟨sign, hsign, rest, hw.symm⟩
  cases h with
  | @closing sign' hsign' =>
    rcases Mode.sign_cases hsign with rfl | rfl | rfl <;> rcases Mode.sign_cases hsign' with rfl | rfl | rfl <;>
      rcases mode.endMark_cases with hmark | hmark <;> rw [hmark] at hw ⊢ <;> simp at hw ⊢ <;> exact hw
  | literal hmark _ _ =>
    rw [List.append_assoc] at hat
    exact absurd hmark hat.head.2.1
  | char _ hcloses _ h =>
    exact absurd (hat.of_append (Nat.succ_le_succ h.length_le)) (hcloses rfl)

end Inside

/-- The text behind the tag that a cursor stands in, if the tag closes. `fuel` bounds the number of steps; each
takes a character. -/
def Cursor.leave? (o : Options) (size : Nat) : (fuel : Nat) → (afterPoint : Bool) → Cursor → Option (List Char)
  | 0, _, _ => none
  | fuel + 1, afterPoint, c =>
    match c.mode with
    | .data _ => some c.rest
    | _ => match c.move o size afterPoint with
      | .halt _ => none
      | .go tokens next => next.leave? o size fuel (endsWithPoint tokens)

/-- Within a tag the lexer reads the tag. -/
theorem Cursor.move_eq_tagMove {size : Nat} {afterPoint : Bool} {c : Cursor}
    (hmode : ∀ startsLine, c.mode ≠ .data startsLine) : c.move o size afterPoint = tagMove o size afterPoint c := by
  unfold Cursor.move
  split
  · next hdata => exact absurd hdata (hmode _)
  · rfl

section
variable (ho : o.delimiters = .standard) {size : Nat}
include ho

/-- Where the lexer leaves a tag, from its place to the rest stood an inside and the blanks that the closing
takes. -/
theorem inside_of_leave? {fuel : Nat} {afterPoint : Bool} {c : Cursor} (hmode : ∀ startsLine, c.mode ≠ .data startsLine)
    (h : c.leave? o size fuel afterPoint = some rest) :
    ∃ w eaten, c.rest = w ++ (eaten ++ rest) ∧ (∀ d ∈ eaten, Text.isBlank d = true) ∧ Inside c.mode c.brackets w := by
  induction fuel generalizing afterPoint c with
  | zero => cases h
  | succ fuel ih =>
    unfold Cursor.leave? at h
    split at h
    · next hdata => exact absurd hdata (hmode _)
    · split at h
      · cases h
      · next tokens next hmove =>
        rw [Cursor.move_eq_tagMove hmode] at hmove
        rcases tagMove_go ho hmove with hcloses | hsteps
        · obtain ⟨sign, hsign, eaten, hrest, heaten, hnext⟩ := hcloses.closing
          have hbehind : next.rest = rest := by
            cases fuel with
            | zero => cases h
            | succ fuel =>
              rw [hnext] at h
              exact Option.some.inj h
          refine ⟨sign ++ c.mode.endMark, eaten, ?_, heaten, ?_⟩
          · rw [hrest, hbehind, List.append_assoc]
          · rw [hcloses.brackets]
            exact .closing hsign
        · obtain ⟨w, eaten, hrest, heaten, hinside⟩ := ih (by rw [hsteps.mode]; exact hmode) h
          rw [hsteps.mode] at hinside
          have hpasses := hsteps.passes
          rw [hrest] at hpasses
          obtain ⟨w', hrest', hinside'⟩ := hinside.of_passes hpasses
          exact ⟨w', eaten, hrest', heaten, hinside'⟩

theorem Cursor.suffix_leave? {fuel : Nat} {afterPoint : Bool} {c : Cursor}
    (hmode : ∀ startsLine, c.mode ≠ .data startsLine) (h : c.leave? o size fuel afterPoint = some rest) :
    rest <:+ c.rest := by
  obtain ⟨w, eaten, hrest, -⟩ := inside_of_leave? ho hmode h
  rw [hrest]
  exact (List.suffix_append ..).trans (List.suffix_append ..)

omit ho in
/-- A step that stays in the tag keeps that the first token, if it is a name, is the word that stands first. -/
theorem Steps.beginsWord {c next : Cursor} {tokens inner : List Token} {w' tail : List Char} (h : Steps c next tokens)
    (hrest : c.rest = w ++ tail) (hnext : next.rest = w' ++ tail) (hne : w' ≠ [])
    (hinner : ∀ t ∈ inner.head?, ∀ n, t.kind = .name n → IsRun n.toList ∧ BeginsWord n.toList w') :
    ∀ t ∈ (tokens ++ inner).head?, ∀ n, t.kind = .name n → IsRun n.toList ∧ BeginsWord n.toList w := by
  intro t ht n hn
  cases tokens with
  | nil =>
    obtain ⟨blanks, hpassed, hblanks⟩ := h.blanks rfl
    have hw : w = blanks ++ w' := by
      refine @List.append_cancel_right _ _ tail _ ?_
      rw [← hrest, hpassed, hnext, List.append_assoc]
    rw [hw]
    exact (hinner t ht n hn).imp_right fun hbegins => hbegins.behind_blanks hblanks
  | cons t' tokens =>
    obtain rfl : t' = t := Option.some.inj ht
    obtain ⟨hrun, hname, hends⟩ := h.name t' (List.mem_cons_self ..) n hn
    obtain ⟨e, more, rfl⟩ := List.exists_cons_of_ne_nil hne
    have hw : w = n.toList ++ e :: more := by
      refine @List.append_cancel_right _ _ tail _ ?_
      rw [← hrest, hname, hnext, List.append_assoc]
    exact ⟨hrun, [], e, more, hw, by simp, hends e (by rw [hnext]; rfl)⟩

/-- What the tokens of an inside are, and what comes behind them: either they are read up to the closing, behind
which blanks may be taken, or something in it cannot be read. -/
theorem tokens_inside {fuel : Nat} {afterPoint : Bool} {c : Cursor} (hmode : ∀ startsLine, c.mode ≠ .data startsLine)
    (hinside : Inside c.mode c.brackets w) {tail : List Char} (hrest : c.rest = w ++ tail)
    (hfuel : c.rest.length < fuel) :
    ∃ inner, (∀ t ∈ inner, t.kind.isInner = true) ∧
      (∀ t ∈ inner.head?, ∀ n, t.kind = .name n → IsRun n.toList ∧ BeginsWord n.toList w) ∧
      ((∃ line taken eaten after fuel', tail = eaten ++ after ∧ (∀ d ∈ eaten, Text.isBlank d = true) ∧
          after.length < fuel' ∧ c.tokens o size fuel afterPoint =
            inner ++ ⟨line, c.mode.endKind⟩ :: (Cursor.behind line taken after).tokens o size fuel' false) ∨
        ∃ line fault, c.tokens o size fuel afterPoint = inner ++ [⟨line, .broken fault⟩]) := by
  induction fuel generalizing afterPoint c w with
  | zero => exact absurd hfuel (Nat.not_lt_zero _)
  | succ fuel ih =>
    rw [Cursor.tokens, Cursor.move_eq_tagMove hmode]
    cases htag : tagMove o size afterPoint c with
    | halt tokens =>
      have hne : c.rest ≠ [] := by
        rw [hrest]
        exact List.append_ne_nil_of_left_ne_nil hinside.ne_nil _
      obtain ⟨fault, rfl⟩ := tagMove_halt ho htag hne
      exact ⟨[], by simp, by simp, .inr ⟨c.line, fault, rfl⟩⟩
    | go tokens next =>
      rcases tagMove_go ho htag with hcloses | hsteps
      · obtain ⟨sign, hsign, eaten, hrest', heaten, hnext⟩ := hcloses.closing
        rw [hcloses.brackets] at hinside
        rw [hrest, List.append_assoc] at hrest'
        obtain ⟨rfl, htail⟩ := hinside.of_closing hsign hrest'
        have hlt : next.rest.length < fuel := by
          have hlength := hinside.length_le
          rw [hrest, htail, List.length_append, @List.length_append _ eaten] at hfuel
          omega
        refine ⟨[], by simp, by simp, .inl ⟨c.line, sign ++ c.mode.endMark ++ eaten, eaten, next.rest, fuel, htail,
          heaten, hlt, ?_⟩⟩
        have hpoint : endsWithPoint [⟨c.line, c.mode.endKind⟩] = false := by
          cases c.mode <;> rfl
        simp only [hcloses.tokens, ← hnext, hpoint]
        rfl
      · have hlt := hsteps.passes.length_lt
        have hpasses := hsteps.passes
        rw [hrest] at hpasses
        obtain ⟨w', hrest', hinside'⟩ := hinside.passes hpasses
        obtain ⟨inner, hinner, hhead, htokens⟩ := @ih _ (endsWithPoint tokens) next
          (by rw [hsteps.mode]; exact hmode) (by rw [hsteps.mode]; exact hinside') hrest' (by omega)
        rw [hsteps.mode] at htokens
        refine ⟨tokens ++ inner, fun t ht => (List.mem_append.1 ht).elim (hsteps.inner t) (hinner t),
          hsteps.beginsWord hrest hrest' hinside'.ne_nil hhead, ?_⟩
        rcases htokens with ⟨line, taken, eaten, after, fuel', htail, heaten, hafter, htokens⟩ | ⟨line, fault, htokens⟩
        · exact .inl ⟨line, taken, eaten, after, fuel', htail, heaten, hafter,
            by simp only [htokens, List.append_assoc]⟩
        · exact .inr ⟨line, fault, by simp only [htokens, List.append_assoc]⟩

end

end Transclusion.Template

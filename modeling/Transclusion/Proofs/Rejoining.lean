import Transclusion.Proofs.Markers

/-! Markup put together again.

The parts that markup is taken apart into are the trimmed text with blanks between
them, and putting them together with one space gives markup with the same parts
(`of_apart`). A templated reference leaves alone whatever comes behind a gap, and a
plain one holds no blank, so that whether a marker begins in it is the same for all
gaps that may follow it (`Gap.marker?_iff`). -/
namespace Transclusion.Directive

open Text (isBlank strip Inked)

/-- The parts of markup put together again, with a space between them. -/
def Markup.rejoined (m : Markup) : List Char := m.reference ++ m.arguments.elim [] (' ' :: ·)

/-! ### Plain references -/

/-- A run of blanks, which is empty exactly if nothing follows. -/
structure Gap (gap rest : List Char) : Prop where
  blank : ∀ c ∈ gap, isBlank c = true
  nil_iff : gap = [] ↔ rest = []

namespace Gap

variable {gap gap' rest : List Char} (h : Gap gap rest)
include h

theorem head : ∀ c, (gap ++ rest).head? = some c → isBlank c = true := by
  intro c hc
  cases gap with
  | nil => simp [h.nil_iff.1 rfl] at hc
  | cons d gap =>
    obtain rfl : d = c := Option.some.inj hc
    exact h.blank d (List.mem_cons_self ..)

theorem dropWhile_eq : (gap ++ rest).dropWhile isBlank = rest.dropWhile isBlank :=
  List.dropWhile_append_of_pos h.blank

/-- What is no blank comes next only if it does so before the gap. -/
theorem head?_append_iff (cs : List Char) {c : Char} (hc : isBlank c = false) :
    (cs ++ (gap ++ rest)).head? = some c ↔ cs.head? = some c := by
  cases cs with
  | nil => exact ⟨fun hhead => absurd (h.head c hhead) (by rw [hc]; exact Bool.false_ne_true), nofun⟩
  | cons d cs => rfl

/-- Closing braces do not reach over a gap. -/
theorem hasBraces_iff (cs : List Char) : HasBraces (cs ++ (gap ++ rest)) ↔ HasBraces cs ∨ HasBraces rest := by
  have hgap : HasBraces (gap ++ rest) ↔ HasBraces rest := hasBraces_append fun c hc hbrace => by
    have hblank := h.blank c hc
    rw [hbrace] at hblank
    exact absurd hblank (by decide)
  induction cs with
  | nil => rw [List.nil_append, hgap]; exact (or_iff_right not_hasBraces_nil).symm
  | cons c cs ih =>
    rw [List.cons_append, hasBraces_cons, hasBraces_cons, h.head?_append_iff cs (by decide)]
    exact (or_congr_left ih).trans or_right_comm

end Gap

theorem closing?_cons_eq_none {c : Char} {cs : List Char} :
    closing? (c :: cs) = none ↔ ¬(c = '}' ∧ cs.head? = some '}') ∧ ¬(c = '|' ∧ HasBraces cs) := by
  unfold closing?
  split
  · next heq =>
    obtain ⟨rfl, rfl⟩ := List.cons.inj heq
    simp
  · next heq =>
    obtain ⟨rfl, rfl⟩ := List.cons.inj heq
    simp [HasBraces]
  · next hbraces hbar =>
    simp only [true_iff]
    refine ⟨fun h => ?_, fun h => hbar cs (by rw [h.1])⟩
    obtain ⟨rest, rfl⟩ := List.head?_eq_some_iff.1 h.2
    exact hbraces rest (by rw [h.1])

/-- A marker does not close in a text without blanks, nor in what stands behind the gap that follows it. -/
def Unclosed (cs rest : List Char) : Prop :=
  match cs with
  | [] => closing? (rest.dropWhile isBlank) = none
  | c :: cs => ¬(c = '}' ∧ cs.head? = some '}') ∧ ¬(c = '|' ∧ (HasBraces cs ∨ HasBraces rest))

/-- What does not close before a gap does not close alone. -/
theorem Unclosed.alone {cs rest : List Char} (h : Unclosed cs rest) : Unclosed cs [] := by
  cases cs with
  | nil => rfl
  | cons c cs => exact ⟨h.1, fun ⟨hc, hbraces⟩ => h.2 ⟨hc, .inl (hbraces.resolve_right not_hasBraces_nil)⟩⟩

/-- No marker begins with a text without blanks before a gap. -/
def Unmarked (cs rest : List Char) : Prop :=
  ∀ more, cs = '{' :: '{' :: more →
    (more = [] → marker? ('{' :: '{' :: rest) = none) ∧
      (more ≠ [] → more.takeWhile isNameChar = [] ∨ Unclosed (more.dropWhile isNameChar) rest)

theorem Unmarked.alone {cs rest : List Char} (h : Unmarked cs rest) : Unmarked cs [] :=
  fun more hmore => ⟨fun _ => rfl, fun hne => ((h more hmore).2 hne).imp_right Unclosed.alone⟩

theorem marker?_braces_eq_none {cs : List Char} :
    marker? ('{' :: '{' :: cs) = none ↔ (cs.dropWhile isBlank).takeWhile isNameChar = [] ∨
      closing? (((cs.dropWhile isBlank).dropWhile isNameChar).dropWhile isBlank) = none := by
  simp only [marker?]
  split
  · next h => simp [h]
  · next h => simp [h]

/-- A run that ends within a text ends there whatever stands behind it. -/
theorem span_append {p : Char → Bool} (cs : List Char) {rest : List Char}
    (hrest : ∀ c, rest.head? = some c → p c = false) :
    (cs ++ rest).takeWhile p = cs.takeWhile p ∧ (cs ++ rest).dropWhile p = cs.dropWhile p ++ rest := by
  have hsplit : cs = cs.takeWhile p ++ cs.dropWhile p := List.takeWhile_append_dropWhile.symm
  have hspan := @span_run p (cs.takeWhile p) (cs.dropWhile p ++ rest) (fun c => List.mem_takeWhile_imp) <| by
    intro c hc
    rw [List.head?_append] at hc
    have hhead := List.head?_dropWhile_not p cs
    cases hdrop : (cs.dropWhile p).head? with
    | none => exact hrest c (by simpa [hdrop] using hc)
    | some d =>
      rw [hdrop] at hc hhead
      obtain rfl : d = c := Option.some.inj hc
      simpa using hhead
  rwa [← List.append_assoc, ← hsplit] at hspan

section
variable {gap rest : List Char} (h : Gap gap rest)
include h

theorem Gap.closing?_iff {cs : List Char} (hcs : ∀ c ∈ cs, isBlank c = false) :
    closing? ((cs ++ (gap ++ rest)).dropWhile isBlank) = none ↔ Unclosed cs rest := by
  cases cs with
  | nil => rw [List.nil_append, h.dropWhile_eq]; rfl
  | cons c cs =>
    rw [List.cons_append, List.dropWhile_cons_of_neg (by simp [hcs c (List.mem_cons_self ..)]),
      closing?_cons_eq_none, h.head?_append_iff cs (by decide), h.hasBraces_iff]
    rfl

/-- Whether a marker begins with a text without blanks is the same for every gap behind the text. -/
theorem Gap.marker?_iff {cs : List Char} (hcs : ∀ c ∈ cs, isBlank c = false) :
    marker? (cs ++ (gap ++ rest)) = none ↔ Unmarked cs rest := by
  by_cases hform : ∃ more, cs = '{' :: '{' :: more
  · obtain ⟨more, rfl⟩ := hform
    have hunmarked : Unmarked ('{' :: '{' :: more) rest ↔ (more = [] → marker? ('{' :: '{' :: rest) = none) ∧
        (more ≠ [] → more.takeWhile isNameChar = [] ∨ Unclosed (more.dropWhile isNameChar) rest) :=
      ⟨fun hall => hall more rfl, fun hmore other heq => (List.cons.inj (List.cons.inj heq).2).2 ▸ hmore⟩
    rw [hunmarked, List.cons_append, List.cons_append, marker?_braces_eq_none]
    cases more with
    | nil => simp [h.dropWhile_eq, marker?_braces_eq_none]
    | cons c more =>
      have hink : ∀ d ∈ c :: more, isBlank d = false := fun d hd =>
        hcs d (List.mem_cons_of_mem _ (List.mem_cons_of_mem _ hd))
      obtain ⟨htake, hdrop⟩ :=
        @span_append isNameChar (c :: more) _ fun d hd => not_isNameChar_of_isBlank (h.head d hd)
      have hself : (c :: more ++ (gap ++ rest)).dropWhile isBlank = c :: more ++ (gap ++ rest) :=
        List.dropWhile_cons_of_neg (by simp [hink c (List.mem_cons_self ..)])
      rw [hself, htake, hdrop, h.closing?_iff fun d hd => hink d ((List.dropWhile_suffix _).mem hd)]
      simp
  · have hno : ∀ behind, cs ++ (gap ++ rest) ≠ '{' :: '{' :: behind := by
      intro behind heq
      have hbrace : isBlank '{' = false := by decide
      have hfirst := (h.head?_append_iff cs hbrace).1 (by rw [heq]; rfl)
      obtain ⟨more, rfl⟩ := List.head?_eq_some_iff.1 hfirst
      have hbehind : more ++ (gap ++ rest) = '{' :: behind := (List.cons.inj heq).2
      have hsecond := (h.head?_append_iff more hbrace).1 (by rw [hbehind]; rfl)
      obtain ⟨last, rfl⟩ := List.head?_eq_some_iff.1 hsecond
      exact hform ⟨last, rfl⟩
    refine iff_of_true ?_ fun more hmore => absurd ⟨more, hmore⟩ hform
    unfold marker?
    split
    · next behind heq => exact absurd heq (hno behind)
    · rfl

end

/-- Before a gap a text without blanks is no templated reference if it is none before another gap; nor is it one
alone. -/
theorem cutTemplated?_gap {cs gap gap' rest : List Char} (hcs : ∀ c ∈ cs, isBlank c = false) (h : Gap gap rest)
    (h' : Gap gap' rest) (hnone : cutTemplated? (cs ++ (gap ++ rest)) = none) :
    cutTemplated? (cs ++ (gap' ++ rest)) = none ∧ cutTemplated? cs = none := by
  simp only [cutTemplated?_eq_none] at hnone ⊢
  have hgap {gap : List Char} (h : Gap gap rest) : (gap ++ rest).dropWhile (· ≠ '{') = rest.dropWhile (· ≠ '{') :=
    List.dropWhile_append_of_pos fun c hc => decide_eq_true fun hbrace => by
      have hblank := h.blank c hc
      rw [hbrace] at hblank
      exact absurd hblank (by decide)
  rw [List.dropWhile_append] at hnone ⊢
  split at hnone
  · next hempty =>
    rw [if_pos hempty, hgap h']
    rw [hgap h] at hnone
    rw [List.isEmpty_iff.1 hempty]
    exact ⟨hnone, rfl⟩
  · next hfound =>
    rw [if_neg hfound]
    have hink : ∀ c ∈ cs.dropWhile (· ≠ '{'), isBlank c = false := fun c hc => hcs c ((List.dropWhile_suffix _).mem hc)
    have hunmarked := (h.marker?_iff hink).1 hnone
    refine ⟨(h'.marker?_iff hink).2 hunmarked, ?_⟩
    have hnothing : Gap [] [] := ⟨by simp, Iff.rfl⟩
    simpa using (hnothing.marker?_iff hink).2 hunmarked.alone

/-! ### Markup -/

/-- Behind a templated reference there may be other blanks. -/
theorem Gap.yields {gap rest : List Char} (h : Gap gap (strip rest)) :
    Yields rest (gap ++ strip rest) ∧ marker? (gap ++ strip rest) = none := by
  refine ⟨⟨fun c hc => ?_, fun hbraces => ?_⟩, ?_⟩
  · have hblank := h.head c hc
    refine ⟨by simp [isTailChar, hblank], fun hbrace => ?_⟩
    rw [hbrace] at hblank
    exact absurd hblank (by decide)
  · obtain ⟨lead, trail, -, -, heq⟩ := Text.exists_strip rest
    have hstrip : HasBraces (strip rest) := ((h.hasBraces_iff []).1 hbraces).resolve_left not_hasBraces_nil
    rw [heq]
    exact (hstrip.append_left lead).append_right trail
  · have hnone : ∀ c ∈ ([] : List Char), isBlank c = false := by simp
    exact (h.marker?_iff hnone).2 fun _ heq => absurd heq.symm (List.cons_ne_nil _ _)

theorem getD_nonEmpty? (cs : List Char) : (nonEmpty? cs).getD [] = cs := by
  unfold nonEmpty?
  split
  · next hnil => exact hnil.symm
  · rfl

/-- The parts of a text, and how they stand in it and elsewhere. -/
structure Markup.Falls (m : Markup) (text : List Char) : Prop where
  eq : ∃ gap, (∀ c ∈ gap, isBlank c = true) ∧ text = m.reference ++ gap ++ m.arguments.getD []
  arguments : ∀ arguments ∈ m.arguments, arguments ≠ [] ∧ strip arguments = arguments
  nonempty : m.reference = [] → text = []
  ink : m.isTemplated = false → ∀ c ∈ m.reference, isBlank c = false
  alone : m.isTemplated = Directive.isTemplated m.reference
  /-- With any gap between them the parts are taken apart again. -/
  again : ∀ gap, Gap gap (m.arguments.getD []) → Markup.of (m.reference ++ (gap ++ m.arguments.getD [])) = m

/-- Putting the parts together again puts a gap between them. -/
theorem Markup.Falls.exists_gap {m : Markup} {text : List Char} (h : m.Falls text) :
    ∃ gap, Gap gap (m.arguments.getD []) ∧ m.rejoined = m.reference ++ (gap ++ m.arguments.getD []) := by
  unfold rejoined
  cases harguments : m.arguments with
  | none => exact ⟨[], ⟨by simp, Iff.rfl⟩, rfl⟩
  | some arguments =>
    have hne : arguments ≠ [] := (h.arguments arguments harguments).1
    exact ⟨[' '], ⟨List.forall_mem_singleton.2 rfl, by simp [hne]⟩, rfl⟩

/-- What trimming leaves is no blank text, or there are no arguments. -/
theorem arguments_nonEmpty? (rest : List Char) :
    ∀ arguments ∈ nonEmpty? (strip rest), arguments ≠ [] ∧ strip arguments = arguments := by
  intro arguments harguments
  unfold nonEmpty? at harguments
  split at harguments
  · cases harguments
  · next hne =>
    obtain rfl : strip rest = arguments := Option.some.inj harguments
    exact ⟨hne, Text.strip_strip rest⟩

/-- A reference without blanks at its ends, a gap and trimmed arguments have no blanks at their ends together. -/
theorem Gap.inked {reference gap rest : List Char} (hreference : Inked reference) (hne : reference ≠ [])
    (h : Gap gap (strip rest)) : Inked (reference ++ (gap ++ strip rest)) := by
  refine hreference.append hne fun c hc => ?_
  rw [List.getLast?_append] at hc
  cases hlast : (strip rest).getLast? with
  | some d =>
    obtain rfl : d = c := by simpa [hlast] using hc
    exact (Text.inked_strip rest).last d hlast
  | none =>
    rw [List.getLast?_eq_none_iff] at hlast
    simp [hlast, h.nil_iff.2 hlast] at hc

/-- So have a word, a gap and trimmed arguments, if nothing stands behind an empty word. -/
theorem Gap.inked_word {word gap rest : List Char} (hgap : Gap gap (strip rest))
    (hink : ∀ c ∈ word, isBlank c = false) (hnil : word = [] → strip rest = []) :
    Inked (word ++ (gap ++ strip rest)) := by
  by_cases hword : word = []
  · rw [hword, hnil hword, hgap.nil_iff.2 (hnil hword)]
    exact ⟨by simp, by simp⟩
  · have hinked : Inked word :=
      ⟨fun c hc => hink c (List.mem_of_mem_head? hc), fun c hc => hink c (List.mem_of_getLast? hc)⟩
    exact hgap.inked hinked hword

theorem Gap.strip_eq {gap rest : List Char} (h : Gap gap (strip rest)) : strip (gap ++ strip rest) = strip rest :=
  Text.strip_behind h.blank (Text.inked_strip rest)

theorem falls_of_templated {text reference rest : List Char} (htext : Inked text)
    (hcut : cutTemplated? text = some (reference, rest)) : (Markup.of text).Falls text := by
  obtain ⟨lead, found, href, hsplit, -, hne, hmarkers⟩ := cutTemplated?_eq_some.1 hcut
  have hreference_ne : reference ≠ [] := by simp [href, hne]
  have hinked : Inked reference := by
    refine ⟨fun c hc => htext.head c ?_, fun c hc => ?_⟩
    · rw [hsplit, List.head?_append, hc]
      rfl
    · obtain ⟨-, last, hlast, hblank⟩ := hmarkers.ends hne
      rw [href, List.getLast?_append, hlast] at hc
      exact Option.some.inj hc ▸ hblank
  have hof : Markup.of text = ⟨reference, nonEmpty? (strip rest), true⟩ := by
    simp only [Markup.of, htext.strip_eq, hcut, hinked.strip_eq]
  have hrest : strip rest = rest.dropWhile isBlank := Text.strip_of_getLast? fun c hc => by
    refine htext.last c ?_
    rw [hsplit, List.getLast?_append, hc]
    rfl
  rw [hof]
  refine ⟨⟨rest.takeWhile isBlank, fun c => List.mem_takeWhile_imp, ?_⟩, arguments_nonEmpty? rest,
    fun hnil => absurd hnil hreference_ne, by simp, ?_, fun gap hgap => ?_⟩
  · rw [getD_nonEmpty?, hrest, List.append_assoc, List.takeWhile_append_dropWhile, hsplit]
  · have hyields : Yields rest [] := ⟨by simp, fun h => absurd h not_hasBraces_nil⟩
    have halone := cutTemplated?_swap hcut hyields rfl
    rw [List.append_nil] at halone
    simp [isTemplated, halone]
  · simp only [getD_nonEmpty?] at hgap ⊢
    have hcut' := cutTemplated?_swap hcut hgap.yields.1 hgap.yields.2
    simp only [Markup.of, (hgap.inked hinked hreference_ne).strip_eq, hcut', hinked.strip_eq, hgap.strip_eq]

/-- What begins with a blank and does not end with one is a gap before arguments. -/
theorem gap_of_ends {behind : List Char} (hhead : ∀ c, behind.head? = some c → isBlank c = true)
    (hlast : ∀ c, behind.getLast? = some c → isBlank c = false) :
    Gap (behind.takeWhile isBlank) (strip behind) := by
  refine ⟨fun c => List.mem_takeWhile_imp, fun hnil => ?_, fun hnil => ?_⟩
  · cases behind with
    | nil => rfl
    | cons c more => simp [hhead c rfl] at hnil
  · rw [Text.strip_of_getLast? hlast, List.dropWhile_eq_nil_iff] at hnil
    cases hcase : behind.getLast? with
    | none => rw [List.getLast?_eq_none_iff.1 hcase]; rfl
    | some c => exact absurd (hnil c (List.mem_of_getLast? hcase)) (by simp [hlast c hcase])

theorem falls_of_plain {text : List Char} (htext : Inked text) (hcut : cutTemplated? text = none) :
    (Markup.of text).Falls text := by
  obtain ⟨reference, hreference⟩ : ∃ reference, text.takeWhile (!isBlank ·) = reference := ⟨_, rfl⟩
  obtain ⟨behind, hbehind⟩ : ∃ behind, text.dropWhile (!isBlank ·) = behind := ⟨_, rfl⟩
  have hof : Markup.of text = ⟨reference, nonEmpty? (strip behind), false⟩ := by
    simp only [Markup.of, htext.strip_eq, hcut, hreference, hbehind]
  have hsplit : text = reference ++ behind := by rw [← hreference, ← hbehind, List.takeWhile_append_dropWhile]
  have hink : ∀ c ∈ reference, isBlank c = false := fun c hc => by
    rw [← hreference] at hc
    simpa using List.mem_takeWhile_imp hc
  have hlast : ∀ c, behind.getLast? = some c → isBlank c = false := fun c hc => by
    refine htext.last c ?_
    rw [hsplit, List.getLast?_append, hc]
    rfl
  have hgap : Gap (behind.takeWhile isBlank) (strip behind) := by
    refine gap_of_ends (fun c hc => ?_) hlast
    have hfirst := List.head?_dropWhile_not (!isBlank ·) text
    rw [hbehind, hc] at hfirst
    simpa using hfirst
  have htext' : text = reference ++ (behind.takeWhile isBlank ++ strip behind) := by
    rw [Text.strip_of_getLast? hlast, List.takeWhile_append_dropWhile, hsplit]
  have hnone := hcut
  rw [htext'] at hnone
  have hreference_nil : reference = [] → text = [] := fun hnil => by
    cases text with
    | nil => rfl
    | cons c more => simp [htext.head c rfl, hnil] at hreference
  rw [hof]
  refine ⟨⟨behind.takeWhile isBlank, hgap.blank, ?_⟩, arguments_nonEmpty? behind, hreference_nil, fun _ => hink, ?_,
    fun gap hgap' => ?_⟩
  · rw [getD_nonEmpty?, List.append_assoc, ← htext']
  · simp [isTemplated, (cutTemplated?_gap hink hgap hgap hnone).2]
  · simp only [getD_nonEmpty?] at hgap' ⊢
    have hinked : Inked (reference ++ (gap ++ strip behind)) := by
      refine hgap'.inked_word hink fun hnil => ?_
      have hbehind_nil : behind = [] := (List.append_eq_nil_iff.1 (hsplit ▸ hreference_nil hnil)).2
      rw [hbehind_nil]
      rfl
    obtain ⟨htake, hdrop⟩ := @span_run (!isBlank ·) reference (gap ++ strip behind) (fun c hc => by simp [hink c hc])
      fun c hc => by simp [hgap'.head c hc]
    simp only [Markup.of, hinked.strip_eq, (cutTemplated?_gap hink hgap hgap' hnone).1, htake, hdrop, hgap'.strip_eq]

/-- Taking markup apart loses nothing but blanks, and it comes to parts of which nothing more can be taken: with
blanks between them the parts are the trimmed markup; arguments are not blank, and have no blank at either end;
the reference is empty only where the markup is blank, and if it is plain it holds no blank. The reference is
templated exactly if it is so alone, and the parts put together again are taken apart into the same parts. -/
theorem Markup.of_apart (markup : List Char) :
    let parts := Markup.of markup
    (∃ gap, (∀ c ∈ gap, isBlank c = true) ∧ strip markup = parts.reference ++ gap ++ parts.arguments.getD []) ∧
      (∀ arguments ∈ parts.arguments, arguments ≠ [] ∧ strip arguments = arguments) ∧
      (parts.reference = [] → ∀ c ∈ markup, isBlank c = true) ∧
      (parts.isTemplated = false → ∀ c ∈ parts.reference, isBlank c = false) ∧
      parts.isTemplated = Directive.isTemplated parts.reference ∧ Markup.of parts.rejoined = parts := by
  intro parts
  have htrimmed : Markup.of (strip markup) = parts := by
    simp only [parts, Markup.of, Text.strip_strip]
  have hfalls : parts.Falls (strip markup) := by
    rw [← htrimmed]
    cases hcut : cutTemplated? (strip markup) with
    | none => exact falls_of_plain (Text.inked_strip markup) hcut
    | some cut => exact falls_of_templated (Text.inked_strip markup) hcut
  obtain ⟨gap, hgap, htext⟩ := hfalls.eq
  refine ⟨⟨gap, hgap, htext⟩, hfalls.arguments, fun hnil => ?_, hfalls.ink,
    hfalls.alone, ?_⟩
  · obtain ⟨lead, trail, hlead, htrail, heq⟩ := Text.exists_strip markup
    rw [hfalls.nonempty hnil, List.append_nil] at heq
    rw [heq]
    exact fun c hc => (List.mem_append.1 hc).elim (hlead c) (htrail c)
  · obtain ⟨gap, hgap, hrejoined⟩ := hfalls.exists_gap
    rw [hrejoined]
    exact hfalls.again gap hgap

end Transclusion.Directive

import Transclusion.Proofs.Arguments

/-! Markup and its parts.

A text whose ends are no blanks is what trimming leaves of it between blanks
(`strip_inked`). Arguments that are accepted stay so when they are trimmed, since a
token ends with no blank (`Layout.Proper.trimmed`). Behind a plain reference and blanks they are taken
for what they are unless their first opening brace begins a marker, which then is taken for one of the
reference, with all that stands before it. -/
namespace Transclusion

/-! ### Trimming -/

namespace Text

/-- Neither end of the text is a blank. -/
structure Inked (cs : List Char) : Prop where
  head : ∀ c, cs.head? = some c → isBlank c = false
  last : ∀ c, cs.getLast? = some c → isBlank c = false

theorem not_isBlank {c : Char} (h : 33 ≤ c.toNat) (h' : c.toNat ≤ 132) : isBlank c = false := by
  rw [← Bool.not_eq_true]
  intro hblank
  simp only [isBlank, Bool.or_eq_true, Bool.and_eq_true, decide_eq_true_eq, beq_iff_eq] at hblank
  omega

/-- What is dropped from the end of a text stands there. -/
theorem exists_dropEndWhile_append (p : Char → Bool) (cs : List Char) : ∃ trail, dropEndWhile p cs ++ trail = cs := by
  have hbegins : dropEndWhile p cs <+: cs := by
    rw [← List.reverse_suffix, dropEndWhile, List.reverse_reverse]
    exact List.dropWhile_suffix _
  exact hbegins

/-- Behind a text that does not end in the class, the class is dropped and nothing else. -/
theorem dropEndWhile_append {p : Char → Bool} {cs trail : List Char} (hcs : ∀ c, cs.getLast? = some c → p c = false)
    (htrail : ∀ c ∈ trail, p c = true) : dropEndWhile p (cs ++ trail) = cs := by
  have htrail' : ∀ d ∈ trail.reverse, p d = true := fun d hd => htrail d (List.mem_reverse.1 hd)
  have hback := (Directive.span_run cs.reverse htrail' (by rw [List.head?_reverse]; exact hcs)).2
  rw [dropEndWhile, List.reverse_append, hback, List.reverse_reverse]

/-- Of a text between blanks trimming leaves the text. -/
theorem strip_inked {lead core trail : List Char} (hlead : ∀ c ∈ lead, isBlank c = true)
    (hcore : Inked core) (htrail : ∀ c ∈ trail, isBlank c = true) : strip (lead ++ core ++ trail) = core := by
  unfold strip trim
  cases core with
  | nil =>
    have hnil : (lead ++ [] ++ trail).dropWhile isBlank = [] := by
      rw [List.append_nil, List.dropWhile_append_of_pos hlead, List.dropWhile_eq_nil_iff]
      exact htrail
    rw [hnil]
    rfl
  | cons c cs =>
    have hfront := (Directive.span_run (c :: cs ++ trail) hlead hcore.head).2
    rw [List.append_assoc, hfront, dropEndWhile_append hcore.last htrail]

/-- What trimming leaves has no blank at either end. -/
theorem inked_strip (cs : List Char) : Inked (strip cs) where
  head c hc := by
    obtain ⟨trail, htrail⟩ := exists_dropEndWhile_append isBlank (cs.dropWhile isBlank)
    have hhead : (cs.dropWhile isBlank).head? = some c := by
      rw [← htrail, List.head?_append]
      unfold strip trim at hc
      rw [hc]
      rfl
    have hfirst := List.head?_dropWhile_not isBlank cs
    rw [hhead] at hfirst
    simpa using hfirst
  last c hc := by
    unfold strip trim dropEndWhile at hc
    rw [List.getLast?_reverse] at hc
    have hfirst := List.head?_dropWhile_not isBlank (cs.dropWhile isBlank).reverse
    rw [hc] at hfirst
    simpa using hfirst

/-- Blanks before a text without blanks at its ends are trimmed away. -/
theorem strip_behind {lead core : List Char} (hlead : ∀ c ∈ lead, isBlank c = true) (hcore : Inked core) :
    strip (lead ++ core) = core := by
  have hnone : ∀ c ∈ ([] : List Char), isBlank c = true := by simp
  simpa using strip_inked hlead hcore hnone

/-- A text without blanks at its ends is what trimming leaves of it. -/
theorem Inked.strip_eq {cs : List Char} (h : Inked cs) : strip cs = cs :=
  have hnone : ∀ c ∈ ([] : List Char), isBlank c = true := by simp
  strip_behind hnone h

/-- Trimming what trimming leaves changes nothing. -/
theorem strip_strip (cs : List Char) : strip (strip cs) = strip cs := (inked_strip cs).strip_eq

/-- Trimming takes blanks away, and nothing else. -/
theorem exists_strip (cs : List Char) : ∃ lead trail, (∀ c ∈ lead, isBlank c = true) ∧
    (∀ c ∈ trail, isBlank c = true) ∧ cs = lead ++ strip cs ++ trail := by
  refine ⟨cs.takeWhile isBlank, ((cs.dropWhile isBlank).reverse.takeWhile isBlank).reverse,
    fun c => List.mem_takeWhile_imp, fun c hc => List.mem_takeWhile_imp (List.mem_reverse.1 hc), ?_⟩
  rw [strip, trim, dropEndWhile, List.append_assoc, ← List.reverse_append, List.takeWhile_append_dropWhile,
    List.reverse_reverse, List.takeWhile_append_dropWhile]

/-- The ends of a text are no blanks if it begins with such a text, and ends with none. -/
theorem Inked.append {cs more : List Char} (h : Inked cs) (hne : cs ≠ [])
    (hlast : ∀ c, more.getLast? = some c → isBlank c = false) : Inked (cs ++ more) where
  head c hc := by
    rw [List.head?_append, List.head?_eq_some_head hne] at hc
    exact h.head c (by rw [List.head?_eq_some_head hne]; exact hc)
  last c hc := by
    rw [List.getLast?_append] at hc
    cases hmore : more.getLast? with
    | none => exact h.last c (by simpa [hmore] using hc)
    | some d =>
      obtain rfl : d = c := by simpa [hmore] using hc
      exact hlast d hmore

/-- A text that ends with no blank is trimmed at its front alone. -/
theorem strip_of_getLast? {cs : List Char} (h : ∀ c, cs.getLast? = some c → isBlank c = false) :
    strip cs = cs.dropWhile isBlank := by
  have hlast : ∀ c, (cs.dropWhile isBlank).getLast? = some c → isBlank c = false := by
    intro c hc
    obtain ⟨lead, hlead⟩ := List.dropWhile_suffix (l := cs) isBlank
    refine h c ?_
    rw [← hlead, List.getLast?_append, hc]
    rfl
  have hnone : ∀ c ∈ ([] : List Char), isBlank c = true := by simp
  simpa [strip, trim] using dropEndWhile_append hlast hnone

end Text

namespace Directive

open Text (isBlank strip Inked)

/-! ### Arguments between blanks -/

theorem not_isBlank_of_isBareChar {c : Char} (h : Assignment.isBareChar c = true) : isBlank c = false := by
  obtain ⟨h, h'⟩ := Assignment.bounds_of_isBareChar h
  exact Text.not_isBlank (by omega) (by omega)

/-- A value ends with no blank. -/
theorem Operand.Proper.last {operand : Operand} (h : operand.Proper) :
    ∃ c, operand.text.getLast? = some c ∧ isBlank c = false := by
  cases h with
  | @quoted mark body _ =>
    refine ⟨mark.char, List.getLast?_concat .., ?_⟩
    cases mark <;> decide
  | @bare name hne hname =>
    refine ⟨name.getLast hne, List.getLast?_eq_some_getLast hne, ?_⟩
    exact not_isBlank_of_isBareChar (hname _ (List.getLast_mem hne))

theorem Token.Proper.last {t : Token} (h : t.Proper) : ∃ c, t.text.getLast? = some c ∧ isBlank c = false := by
  obtain ⟨c, hc, hblank⟩ := h.operand.last
  refine ⟨c, ?_, hblank⟩
  rw [Token.text, List.getLast?_append, hc]
  rfl

namespace Layout

/-- Blanks behind the last token can be left out. -/
theorem Proper.withoutEnd {l : Layout} (h : l.Proper) :
    ∃ (l' : Layout) (trail : List Char), l'.Proper ∧ IsBlankRun trail ∧ l.text = l'.text ++ trail ∧
      ∀ c, l'.text.getLast? = some c → isBlank c = false := by
  induction h with
  | @blanks run hrun => exact ⟨.blanks [], run, .blanks isBlankRun_nil, hrun, rfl, by simp [text]⟩
  | @token lead t rest hlead ht hends _ ih =>
    obtain ⟨rest', trail, hrest', htrail, htext, hlast⟩ := ih
    have hends' : EndsValue rest'.text := by
      intro c hc
      refine hends c ?_
      rw [htext, List.head?_append, hc]
      rfl
    refine ⟨.token lead t rest', trail, .token hlead ht hends' hrest', htrail, by simp [text, htext], ?_⟩
    intro c hc
    rw [text, List.getLast?_append] at hc
    cases hrest : rest'.text.getLast? with
    | some d =>
      obtain rfl : d = c := by simpa [hrest] using hc
      exact hlast d hrest
    | none =>
      -- Nothing is left behind the token.
      obtain ⟨d, hd, hblank⟩ := ht.last
      obtain rfl : d = c := by simpa [hrest, List.getLast?_append, hd] using hc
      exact hblank

/-- A proper layout without the blanks at either end is a proper layout. -/
theorem Proper.trimmed {l : Layout} (h : l.Proper) :
    ∃ (core : Layout) (lead trail : List Char), core.Proper ∧ Inked core.text ∧ IsBlankRun lead ∧
      IsBlankRun trail ∧ l.text = lead ++ core.text ++ trail := by
  obtain ⟨l', trail, hproper, htrail, htext, hlast⟩ := h.withoutEnd
  cases hproper with
  | @blanks run hrun =>
    exact ⟨.blanks [], run, trail, .blanks isBlankRun_nil, ⟨by simp [text], by simp [text]⟩, hrun, htrail,
      by rw [htext]; simp [text]⟩
  | @token lead t rest hlead ht hends hrest =>
    have hsplit : (Layout.token lead t rest).text = lead ++ (Layout.token [] t rest).text := by simp [text]
    refine ⟨.token [] t rest, lead, trail, .token isBlankRun_nil ht hends hrest, ⟨fun c hc => ?_, fun c hc => ?_⟩,
      hlead, htrail, by rw [htext, hsplit]⟩
    · exact not_isBlank_of_isBareChar (isBareChar_head_token ht rest.text c hc)
    · refine hlast c ?_
      rw [hsplit, List.getLast?_append, hc]
      rfl

end Layout

/-- Arguments that are accepted are accepted without the blanks around them, too. -/
theorem exists_inked {arguments : List Char} (h : isWellFormed arguments = true) :
    ∃ lead core trail, IsBlankRun lead ∧ Inked core ∧ IsBlankRun trail ∧ isWellFormed core = true ∧
      arguments = lead ++ core ++ trail := by
  obtain ⟨l, hl, rfl⟩ := isWellFormed_iff.1 h
  obtain ⟨core, lead, trail, hproper, hinked, hlead, htrail, htext⟩ := hl.trimmed
  exact ⟨lead, core.text, trail, hlead, hinked, htrail, isWellFormed_iff.2 ⟨core, hproper, rfl⟩, htext⟩

/-! ### A plain reference and arguments -/

theorem isBlank_of_isBlankRun {run : List Char} (h : IsBlankRun run) : ∀ c ∈ run, isBlank c = true :=
  fun c hc => Text.isBlank_of_isAsciiBlank (h c hc)

theorem markers_eq_nil {cs : List Char} : (markers cs).1 = [] ↔ marker? cs = none := by
  rw [markers]
  split
  · next h => simp [h]
  · next marker rest h => simp [h, (marker?_eq h).2]

/-- A text is cut as a templated reference if its first opening brace begins a marker. -/
theorem cutTemplated?_eq_none {cs : List Char} :
    cutTemplated? cs = none ↔ marker? (cs.dropWhile (· ≠ '{')) = none := by
  rw [← markers_eq_nil]
  simp only [cutTemplated?]
  split <;> simp_all

/-- A plain reference, blanks and a text whose ends are none. -/
structure Apart (reference run core : List Char) : Prop where
  reference_ne : reference ≠ []
  reference : ∀ c ∈ reference, isBlank c = false ∧ c ≠ '{'
  run_ne : run ≠ []
  run : ∀ c ∈ run, isBlank c = true
  core_ne : core ≠ []
  core : Inked core

namespace Apart

variable {reference run core : List Char} (h : Apart reference run core)
include h

theorem run_head : ∀ c, (run ++ core).head? = some c → (!isBlank c) = false := by
  intro c hc
  obtain ⟨d, ds, hd⟩ := List.exists_cons_of_ne_nil h.run_ne
  obtain rfl : d = c := by simpa [hd] using hc
  rw [h.run d (by rw [hd]; exact List.mem_cons_self ..)]
  rfl

theorem inked : Inked (reference ++ run ++ core) where
  head c hc := by
    obtain ⟨d, ds, hd⟩ := List.exists_cons_of_ne_nil h.reference_ne
    obtain rfl : d = c := by simpa [hd] using hc
    exact (h.reference d (by rw [hd]; exact List.mem_cons_self ..)).1
  last c hc := by
    refine h.core.last c ?_
    rw [List.getLast?_append, List.getLast?_eq_some_getLast h.core_ne] at hc
    rwa [List.getLast?_eq_some_getLast h.core_ne]

theorem strip_eq {trail : List Char} (htrail : ∀ c ∈ trail, isBlank c = true) :
    strip (reference ++ run ++ core ++ trail) = reference ++ run ++ core :=
  have hlead : ∀ c ∈ ([] : List Char), isBlank c = true := by simp
  Text.strip_inked hlead h.inked htrail

/-- Only the text behind the blanks can hold a marker. -/
theorem dropWhile_eq : (reference ++ run ++ core).dropWhile (· ≠ '{') = core.dropWhile (· ≠ '{') := by
  refine List.dropWhile_append_of_pos fun c hc => ?_
  rcases List.mem_append.1 hc with hmem | hmem
  · exact decide_eq_true (h.reference c hmem).2
  · refine decide_eq_true fun hbrace => ?_
    have hblank := h.run c hmem
    rw [hbrace] at hblank
    exact absurd hblank (by decide)

/-- Cut at its first blank, the whole is the reference and the text. -/
theorem of_eq {trail : List Char} (htrail : ∀ c ∈ trail, isBlank c = true)
    (hmarker : marker? (core.dropWhile (· ≠ '{')) = none) :
    Markup.of (reference ++ run ++ core ++ trail) = ⟨reference, some core, false⟩ := by
  have hplain : cutTemplated? (reference ++ run ++ core) = none := by
    rw [cutTemplated?_eq_none, h.dropWhile_eq, hmarker]
  obtain ⟨htake, hdrop⟩ := span_run (p := fun c => !isBlank c) (run ++ core)
    (fun c hc => by rw [(h.reference c hc).1]; rfl) h.run_head
  have hcore : strip (run ++ core) = core := Text.strip_behind h.run h.core
  rw [Markup.of]
  simp only [h.strip_eq htrail, hplain]
  rw [List.append_assoc, htake, hdrop, hcore, nonEmpty?, if_neg h.core_ne]

theorem isTemplated_of {trail : List Char} (htrail : ∀ c ∈ trail, isBlank c = true)
    (hmarker : marker? (core.dropWhile (· ≠ '{')) ≠ none) :
    (Markup.of (reference ++ run ++ core ++ trail)).isTemplated = true := by
  have htemplated : cutTemplated? (reference ++ run ++ core) ≠ none := by
    rw [Ne, cutTemplated?_eq_none, h.dropWhile_eq]
    exact hmarker
  obtain ⟨cut, hcut⟩ := Option.ne_none_iff_exists'.1 htemplated
  rw [Markup.of]
  simp only [h.strip_eq htrail, hcut]

end Apart

theorem isBareChar_of_isReferenceChar {c : Char} (h : isReferenceChar c = true) :
    Assignment.isBareChar c = true ∨ c = '/' := by
  simp only [isReferenceChar, Assignment.isBareChar, Bool.or_eq_true, beq_iff_eq] at h ⊢
  rcases h with (h | h) | h
  · exact .inl (.inl h)
  · exact .inr h
  · exact .inl (.inr h)

/-- A safe reference holds no blank and no brace. -/
theorem not_isBlank_of_safe {reference : List Char} (h : isSafeReference reference = true) :
    ∀ c ∈ reference, isBlank c = false ∧ c ≠ '{' := by
  intro c hc
  simp only [isSafeReference, Bool.and_eq_true, List.all_eq_true] at h
  rcases isBareChar_of_isReferenceChar (h.2 c hc) with hbare | rfl
  · refine ⟨not_isBlank_of_isBareChar hbare, fun hbrace => ?_⟩
    rw [hbrace] at hbare
    exact absurd hbare (by decide)
  · decide

/-- An invocation holds its markup taken apart. -/
theorem ofMarkup_eq_ok {tag : String} {markup : List Char} {strategy : Strategy} {invocation : Invocation}
    (h : Invocation.ofMarkup tag markup strategy = .ok invocation) :
    invocation = ⟨tag, Markup.of markup, strategy⟩ := by
  unfold Invocation.ofMarkup at h
  simp only at h
  split at h
  · exact (Except.ok.inj h).symm
  · next arguments _ =>
    cases hcheck : checkArguments tag arguments with
    | error fault => simp [hcheck, Except.map] at h
    | ok _ =>
      rw [hcheck] at h
      exact (Except.ok.inj h).symm

/-- Between a safe reference and accepted arguments that are not blank the markup falls apart at the blanks:
the reference is taken as it stands, for a plain one, and the arguments are those given, without the blanks
around them. This is so unless the first opening brace in the arguments, which can only stand in a quoted
value, begins a marker. -/
theorem ofMarkup_plain_iff {reference run arguments : List Char} (hsafe : isSafeReference reference = true)
    (hrun : run ≠ []) (hblank : ∀ c ∈ run, isBlank c = true) (haccepted : isWellFormed arguments = true)
    (hink : strip arguments ≠ []) (tag : String) (strategy : Strategy) :
    Invocation.ofMarkup tag (reference ++ run ++ arguments) strategy =
        .ok ⟨tag, ⟨reference, some (strip arguments), false⟩, strategy⟩ ↔
      marker? ((strip arguments).dropWhile (· ≠ '{')) = none := by
  obtain ⟨lead, core, trail, hlead, hinked, htrail, hcore, rfl⟩ := exists_inked haccepted
  have htrail := isBlank_of_isBlankRun htrail
  rw [Text.strip_inked (isBlank_of_isBlankRun hlead) hinked htrail] at hink ⊢
  have hne : reference ≠ [] := by
    rintro rfl
    exact absurd hsafe (by decide)
  have hapart : Apart reference (run ++ lead) core := by
    refine ⟨hne, not_isBlank_of_safe hsafe, by simp [hrun], fun c hc => ?_, hink, hinked⟩
    exact (List.mem_append.1 hc).elim (hblank c) (isBlank_of_isBlankRun hlead c)
  have hmarkup : reference ++ run ++ (lead ++ core ++ trail) =
      reference ++ (run ++ lead) ++ core ++ trail := by simp
  rw [hmarkup, Invocation.ofMarkup]
  by_cases hmarker : marker? (core.dropWhile (· ≠ '{')) = none
  · simp only [hapart.of_eq htrail hmarker, checkArguments_eq_ok.2 hcore, hmarker, iff_true]
    rfl
  · have htemplated := hapart.isTemplated_of htrail hmarker
    refine iff_of_false (fun hplain => ?_) hmarker
    have hmarkup := congrArg Invocation.markup (ofMarkup_eq_ok hplain)
    rw [← show _ = Markup.of _ from hmarkup] at htemplated
    exact absurd htemplated Bool.false_ne_true

/-- Blanks and quotes in a value, and a brace that begins no marker, leave the reference alone. -/
theorem ofMarkup_plain_brace :
    let arguments := "title=\"a \x7b b\" x='y=1' ".toList
    Invocation.ofMarkup "include_file" ("nav.html".toList ++ [' ', '\n'] ++ arguments) .includeRoots =
      .ok ⟨"include_file", ⟨"nav.html".toList, some "title=\"a \x7b b\" x='y=1'".toList, false⟩,
        .includeRoots⟩ := by
  intro arguments
  have hsafe : isSafeReference "nav.html".toList = true := by decide
  have hrun : [' ', '\n'] ≠ [] := by decide
  have hblank : [' ', '\n'].all isBlank = true := by decide
  have haccepted : isWellFormed arguments = true := by decide +kernel
  have hink : strip arguments ≠ [] := by decide
  have hmarker : marker? ((strip arguments).dropWhile (· ≠ '{')) = none := by decide
  exact (ofMarkup_plain_iff hsafe hrun (List.all_eq_true.1 hblank) haccepted hink "include_file"
    .includeRoots).2 hmarker

/-- A marker in a quoted value is taken for one of the reference: the reference is the whole markup, and there
are no arguments. -/
theorem ofMarkup_marker_in_value :
    let reference := "nav.html".toList
    let arguments := "title=\"\x7b\x7b x \x7d\x7d\"".toList
    isSafeReference reference = true ∧ isWellFormed arguments = true ∧ strip arguments = arguments ∧
      Invocation.ofMarkup "include_file" (reference ++ [' '] ++ arguments) .includeRoots =
        .ok ⟨"include_file", ⟨"nav.html title=\"\x7b\x7b x \x7d\x7d\"".toList, none, true⟩,
          .includeRoots⟩ ∧
      Invocation.ofMarkup "include_file" (reference ++ [' '] ++ arguments) .includeRoots ≠
        .ok ⟨"include_file", ⟨reference, some arguments, false⟩, .includeRoots⟩ := by
  intro reference arguments
  have hmarkup : Markup.of (reference ++ [' '] ++ arguments) =
      ⟨"nav.html title=\"\x7b\x7b x \x7d\x7d\"".toList, none, true⟩ := by decide +kernel
  have houtcome : Invocation.ofMarkup "include_file" (reference ++ [' '] ++ arguments) .includeRoots =
      .ok ⟨"include_file", ⟨"nav.html title=\"\x7b\x7b x \x7d\x7d\"".toList, none, true⟩,
        .includeRoots⟩ := by
    rw [Invocation.ofMarkup]
    simp only [hmarkup]
  refine ⟨by decide, by decide +kernel, by decide, houtcome, ?_⟩
  rw [houtcome]
  intro h
  have := Except.ok.inj h
  simp at this

end Directive

end Transclusion

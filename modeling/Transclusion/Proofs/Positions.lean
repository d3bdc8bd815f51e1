import Mathlib.Algebra.GroupWithZero.Nat
import Transclusion.Proofs.Lines

/-! Lines before and behind rewriting.

What stands outside of directive tags is copied, so the lines of it depend on the tags alone.
Braces stand at both ends of a tag, and no line end is half in it and half outside
(`lineBreaks_append_of_head?`). A rewritten tag has the line breaks of its name; those of its
blanks and of its markup are lost, because the markup is written as a literal
(`lineBreaks_rewritten`). From there on a text stands as many lines too high as have been
lost (`lineBreaks_regions`), and so does every token of it. -/
namespace Transclusion.Template

open Text (lineFeeds)

variable {o : Options} {names : List (List Char)} {cs rest : List Char}

/-! ### Line breaks -/

/-- The number of line ends of any kind; a carriage return and a line feed behind it are one. -/
def lineBreaks (cs : List Char) : Nat := lineFeeds (Text.unifyLineEnds cs)

/-- A character ends a line if it is a line feed, or a carriage return without one behind it. -/
theorem lineBreaks_cons (c : Char) (cs : List Char) :
    lineBreaks (c :: cs) = (if c = '\n' ∨ c = '\r' ∧ cs.head? ≠ some '\n' then 1 else 0) + lineBreaks cs := by
  unfold lineBreaks lineFeeds
  by_cases hreturn : c = '\r'
  · subst hreturn
    cases cs with
    | nil => rfl
    | cons d more =>
      by_cases hfeed : d = '\n'
      · subst hfeed
        rw [unifyLineEnds_both, unifyLineEnds_cons (by decide)]
        simp
      · rw [unifyLineEnds_one fun _ _ heq => hfeed (List.cons.inj heq).1]
        simp [hfeed, Nat.add_comm]
  · rw [unifyLineEnds_cons hreturn]
    by_cases hfeed : c = '\n' <;> simp [hreturn, hfeed, Nat.add_comm]

theorem lineBreaks_eq_zero (hfeed : '\n' ∉ cs) (hreturn : '\r' ∉ cs) : lineBreaks cs = 0 := by
  rw [lineBreaks, unifyLineEnds_eq hreturn, lineFeeds_eq_zero hfeed]

/-- Before a blank no line end is cut in two. -/
theorem lineBreaks_append_blank (a b : List Char) : lineBreaks (a ++ ' ' :: b) = lineBreaks a + lineBreaks b := by
  unfold lineBreaks
  rw [unifyLineEnds_append (by decide), unifyLineEnds_cons (by decide), lineFeeds_append]
  rfl

/-- Behind a brace neither. -/
theorem lineBreaks_behind_brace (h : ∃ before, cs = before ++ ['}']) (rest : List Char) :
    lineBreaks (cs ++ rest) = lineBreaks cs + lineBreaks rest := by
  unfold lineBreaks
  rw [unifyLineEnds_behind_brace h, lineFeeds_append]

theorem lineBreaks_le_append_right (a b : List Char) : lineBreaks b ≤ lineBreaks (a ++ b) := by
  induction a with
  | nil => exact Nat.le_refl _
  | cons c more ih =>
    rw [List.cons_append, lineBreaks_cons]
    omega

theorem lineBreaks_le_append_left (a b : List Char) : lineBreaks a ≤ lineBreaks (a ++ b) := by
  induction a with
  | nil => exact Nat.zero_le _
  | cons c more ih =>
    rw [List.cons_append, lineBreaks_cons, lineBreaks_cons]
    cases more with
    | cons d more => exact Nat.add_le_add_left ih _
    | nil =>
      cases b with
      | nil => exact Nat.le_refl _
      | cons d b =>
        have hnil : lineBreaks [] = 0 := rfl
        rw [List.nil_append, hnil]
        by_cases hd : d = '\n'
        · -- a carriage return alone ends the line that the line feed ends otherwise
          have hpos : 1 ≤ lineBreaks (d :: b) := by
            rw [lineBreaks_cons, if_pos (.inl hd)]
            omega
          split <;> split <;> omega
        · simp [hd]

/-- What stands behind a text changes its line breaks by the first character only. -/
theorem lineBreaks_append_of_head? {x y : List Char} (h : x.head? = y.head?) (a : List Char) :
    lineBreaks (a ++ x) + lineBreaks y = lineBreaks (a ++ y) + lineBreaks x := by
  induction a with
  | nil => exact Nat.add_comm ..
  | cons c more ih =>
    have hhead : (more ++ x).head? = (more ++ y).head? := by rw [List.head?_append, List.head?_append, h]
    rw [List.cons_append, List.cons_append, lineBreaks_cons, lineBreaks_cons, hhead]
    omega

/-! ### Tags -/

namespace TagText.IsTag

variable {t : TagText}

theorem exists_source (ht : t.IsTag .standard names) :
    (∃ more, t.source = '{' :: more) ∧ ∃ before, t.source = before ++ ['}'] := by
  obtain ⟨sign, -, hopening⟩ := ht.opening
  obtain ⟨sign', -, hclosing⟩ := ht.closing
  refine ⟨⟨'%' :: (sign ++ t.blanks ++ t.name ++ t.markup ++ t.closing), ?_⟩,
    t.opening ++ t.blanks ++ t.name ++ t.markup ++ sign' ++ ['%'], ?_⟩
  · simp [TagText.source, hopening, Delimiters.standard]
  · simp [TagText.source, hclosing, Delimiters.standard]

theorem exists_rewritten (ht : t.IsTag .standard names) :
    (∃ more, t.rewritten = '{' :: more) ∧ ∃ before, t.rewritten = before ++ ['}'] := by
  obtain ⟨sign, -, hopening⟩ := ht.opening
  obtain ⟨sign', -, hclosing⟩ := ht.closing
  refine ⟨⟨'%' :: (sign ++ ' ' :: t.name ++ ' ' :: Text.literal .transparent (Text.strip t.markup) ++
      ' ' :: t.closing), ?_⟩,
    t.opening ++ ' ' :: t.name ++ ' ' :: Text.literal .transparent (Text.strip t.markup) ++ ' ' :: sign' ++ ['%'], ?_⟩
  · simp [TagText.rewritten, hopening, Delimiters.standard]
  · simp [TagText.rewritten, hclosing, Delimiters.standard]

/-- The marks, and the literal that the markup is written as, are within a line. -/
theorem lineBreaks_rewritten (ht : t.IsTag .standard names) : lineBreaks t.rewritten = lineBreaks t.name := by
  obtain ⟨sign, hsign, hopening⟩ := ht.opening
  obtain ⟨sign', hsign', hclosing⟩ := ht.closing
  have hmark : lineBreaks t.opening = 0 ∧ lineBreaks t.closing = 0 := by
    rw [hopening, hclosing]
    constructor
    · rcases sign_cases hsign with h | h | h <;> rw [h] <;> rfl
    · rcases sign_cases hsign' with h | h | h <;> rw [h] <;> rfl
  have hliteral : lineBreaks (Text.literal .transparent (Text.strip t.markup)) = 0 := by
    have hwritten := literal_eq (Text.strip t.markup) []
    rw [List.append_nil] at hwritten
    have hfeed : '\n' ∉ literalBody (Text.strip t.markup) := fun h => absurd (le_of_mem_literalBody h) (by decide)
    have hreturn : '\r' ∉ literalBody (Text.strip t.markup) := fun h => absurd (le_of_mem_literalBody h) (by decide)
    rw [hwritten]
    exact lineBreaks_eq_zero (by simp [hfeed]) (by simp [hreturn])
  have hparts : t.rewritten = t.opening ++ ' ' :: (t.name ++ ' ' ::
      (Text.literal .transparent (Text.strip t.markup) ++ ' ' :: t.closing)) := by simp [TagText.rewritten]
  rw [hparts, lineBreaks_append_blank, lineBreaks_append_blank, lineBreaks_append_blank, hmark.1, hmark.2, hliteral,
    Nat.zero_add, Nat.add_zero]

end TagText.IsTag

/-- The line breaks that a tag has besides those of its name. -/
def TagText.lost (t : TagText) : Nat := lineBreaks t.source - lineBreaks t.name

theorem TagText.lineBreaks_source (t : TagText) : lineBreaks t.source = lineBreaks t.name + t.lost := by
  have hle : lineBreaks t.name ≤ lineBreaks t.source := by
    have hright := lineBreaks_le_append_right (t.opening ++ t.blanks) t.name
    have hleft := lineBreaks_le_append_left (t.opening ++ t.blanks ++ t.name) (t.markup ++ t.closing)
    rw [← List.append_assoc] at hleft
    exact Nat.le_trans hright hleft
  exact (Nat.add_sub_cancel' hle).symm

/-! ### Texts -/

/-- The line breaks that are lost where a region is rewritten. -/
def Region.lost : Region → Nat
  | .tag t => t.lost
  | _ => 0

theorem Region.rewritten_of_ne_tag {part : Region} (h : ∀ t, part ≠ .tag t) : part.rewritten = part.source := by
  cases part with
  | tag t => exact absurd rfl (h t)
  | _ => rfl

section
variable {parts : List Region}

/-- Rewritten or not, a text begins with the same character. -/
theorem head?_rewritten (h : ∀ t, .tag t ∈ parts → t.IsTag .standard names) (p : List Char) :
    (parts.flatMap Region.source ++ p).head? = (parts.flatMap Region.rewritten ++ p).head? := by
  induction parts with
  | nil => rfl
  | cons part rest ih =>
    have hrest := ih fun t ht => h t (List.mem_cons_of_mem _ ht)
    simp only [List.flatMap_cons, List.append_assoc]
    cases part with
    | tag t =>
      have ht := h t (List.mem_cons_self ..)
      obtain ⟨more, hsource⟩ := ht.exists_source.1
      obtain ⟨more', hrewritten⟩ := ht.exists_rewritten.1
      simp only [Region.source, Region.rewritten, hsource, hrewritten, List.cons_append, List.head?_cons]
    | plain c => rfl
    | kept text =>
      cases text with
      | nil => exact hrest
      | cons c more => rfl

/-- Behind rewritten regions a text has as many line breaks less before it as have been lost. -/
theorem lineBreaks_regions (h : ∀ t, .tag t ∈ parts → t.IsTag .standard names) (p : List Char) :
    lineBreaks (parts.flatMap Region.source ++ p) =
      lineBreaks (parts.flatMap Region.rewritten ++ p) + (parts.map Region.lost).sum := by
  induction parts with
  | nil => rfl
  | cons part rest ih =>
    have hrest := ih fun t ht => h t (List.mem_cons_of_mem _ ht)
    have hhead := head?_rewritten (fun t ht => h t (List.mem_cons_of_mem part ht)) p
    simp only [List.flatMap_cons, List.append_assoc, List.map_cons, List.sum_cons]
    have hkept : ∀ text, lineBreaks (text ++ (rest.flatMap Region.source ++ p)) =
        lineBreaks (text ++ (rest.flatMap Region.rewritten ++ p)) + (rest.map Region.lost).sum := by
      intro text
      have hsame := lineBreaks_append_of_head? hhead text
      omega
    cases part with
    | tag t =>
      have ht := h t (List.mem_cons_self ..)
      show lineBreaks (t.source ++ _) = lineBreaks (t.rewritten ++ _) + (t.lost + _)
      rw [lineBreaks_behind_brace ht.exists_source.2, lineBreaks_behind_brace ht.exists_rewritten.2, hrest,
        t.lineBreaks_source, ht.lineBreaks_rewritten]
      omega
    | plain c =>
      show lineBreaks ([c] ++ _) = lineBreaks ([c] ++ _) + (0 + _)
      rw [hkept, Nat.zero_add]
    | kept text =>
      show lineBreaks (text ++ _) = lineBreaks (text ++ _) + (0 + _)
      rw [hkept, Nat.zero_add]

theorem sum_lost_eq_zero_iff : (parts.map Region.lost).sum = 0 ↔ ∀ t, .tag t ∈ parts → t.lost = 0 := by
  induction parts with
  | nil => simp
  | cons part rest ih =>
    rw [List.map_cons, List.sum_cons, Nat.add_eq_zero_iff, ih]
    cases part with
    | tag t => simp [Region.lost]
    | _ => simp [Region.lost]

end

/-- A place in texts that are put together is a place in one of them. -/
theorem exists_of_flatMap_eq {α β : Type} {f : α → List β} {xs : List α} {a b : List β}
    (h : xs.flatMap f = a ++ b) (hb : b ≠ []) :
    ∃ before x after p q, xs = before ++ x :: after ∧ f x = p ++ q ∧ q ≠ [] ∧ a = before.flatMap f ++ p ∧
      b = q ++ after.flatMap f := by
  induction xs generalizing a with
  | nil => exact absurd (List.append_eq_nil_iff.1 h.symm).2 hb
  | cons x rest ih =>
    have hlater {a' : List β} (h' : rest.flatMap f = a' ++ b) (ha : a = f x ++ a') :
        ∃ before y after p q, x :: rest = before ++ y :: after ∧ f y = p ++ q ∧ q ≠ [] ∧ a = before.flatMap f ++ p ∧
          b = q ++ after.flatMap f := by
      obtain ⟨before, y, after, p, q, rfl, hy, hq, rfl, rfl⟩ := ih h'
      exact ⟨x :: before, y, after, p, q, rfl, hy, hq, by rw [ha, List.flatMap_cons, List.append_assoc], rfl⟩
    rw [List.flatMap_cons] at h
    rcases List.append_eq_append_iff.1 h with ⟨a', ha, hrest⟩ | ⟨q, hx, hbehind⟩
    · exact hlater hrest ha
    · cases q with
      | nil =>
        have hrest : rest.flatMap f = [] ++ b := by simpa using hbehind.symm
        exact hlater hrest (by simpa using hx.symm)
      | cons c q => exact ⟨[], x, rest, a, c :: q, rfl, hx, List.cons_ne_nil c q, rfl, hbehind⟩

/-! ### Tokens -/

theorem TokenKind.BeginsIn.append {kind : TokenKind} (h : kind.BeginsIn cs) (more : List Char) :
    kind.BeginsIn (cs ++ more) := by
  cases kind with
  | blockBegin => exact List.IsPrefix.trans h (List.prefix_append ..)
  | variableBegin => exact List.IsPrefix.trans h (List.prefix_append ..)
  | name s => exact List.IsPrefix.trans h (List.prefix_append ..)
  | symbol s => exact List.IsPrefix.trans h (List.prefix_append ..)
  | _ => trivial

theorem exists_sourceText_append (keepLast : Bool) (cs : List Char) :
    ∃ last, Text.unifyLineEnds cs = sourceText keepLast cs ++ last := by
  unfold sourceText
  simp only
  split
  · exact ⟨[], (List.append_nil _).symm⟩
  · split
    · next hlast =>
      obtain ⟨before, hbefore⟩ := List.getLast?_eq_some_iff.1 hlast
      exact ⟨['\n'], by rw [hbefore, List.dropLast_concat]⟩
    · exact ⟨[], (List.append_nil _).symm⟩

/-- A token that stands in a template stands in its text as it was given, on the line of its place there. -/
theorem Token.StandsIn.exists_place {t : Token} {keepLast : Bool} (h : t.StandsIn 1 (sourceText keepLast cs)) :
    ∃ before behind, cs = before ++ behind ∧ behind ≠ [] ∧ t.line = 1 + lineBreaks before ∧
      t.kind.BeginsIn (Text.unifyLineEnds behind) := by
  obtain ⟨last, hlast⟩ := exists_sourceText_append keepLast cs
  obtain ⟨a, b, hab, hb, hline, hbegins⟩ := h
  rw [hab, List.append_assoc] at hlast
  obtain ⟨before, behind, rfl, rfl, hbehind⟩ := exists_of_unifyLineEnds_eq hlast
  refine ⟨before, behind, rfl, ?_, hline, ?_⟩
  · rintro rfl
    exact hb (List.append_eq_nil_iff.1 hbehind.symm).1
  · rw [hbehind]
    exact hbegins.append last

/-- Outside of directive tags a text is copied, and a place in it has as many line breaks less before it as have
been lost in the tags before it: it stays on its line exactly if none of these tags has a line break besides
those of its name. Every token of the rewritten text has the line of its place there, so that one which stands
outside of directive tags has the line of its place in the text as it was written, less the lost ones. -/
theorem rewriteTags_lines (ho : o.delimiters = .standard) (names : List (List Char)) (cs : List Char) :
    let parts := regions .standard (byLength names) cs
    parts.flatMap Region.source = cs ∧ parts.flatMap Region.rewritten = rewriteTags o.delimiters names cs ∧
    (∀ before part after p q, parts = before ++ part :: after → (∀ t, part ≠ .tag t) → part.source = p ++ q →
      part.rewritten = p ++ q ∧
      lineBreaks (before.flatMap Region.source ++ p) =
        lineBreaks (before.flatMap Region.rewritten ++ p) + (before.map Region.lost).sum ∧
      (lineBreaks (before.flatMap Region.source ++ p) = lineBreaks (before.flatMap Region.rewritten ++ p) ↔
        ∀ t, .tag t ∈ before → lineBreaks t.source = lineBreaks t.name)) ∧
    ∀ t ∈ tokenize o (rewriteTags o.delimiters names cs), t.kind ≠ .finish →
      ∃ before part after p q, parts = before ++ part :: after ∧ part.rewritten = p ++ q ∧ q ≠ [] ∧
        t.kind.BeginsIn (Text.unifyLineEnds (q ++ after.flatMap Region.rewritten)) ∧
        t.line = 1 + lineBreaks (before.flatMap Region.rewritten ++ p) ∧
        ((∀ t, part ≠ .tag t) →
          t.line + (before.map Region.lost).sum = 1 + lineBreaks (before.flatMap Region.source ++ p)) := by
  intro parts
  have hrewritten : parts.flatMap Region.rewritten = rewriteTags o.delimiters names cs := by
    rw [ho, rewriteTags_eq]
  have hregions {before after : List Region} {part : Region} (hparts : parts = before ++ part :: after)
      (p : List Char) : lineBreaks (before.flatMap Region.source ++ p) =
        lineBreaks (before.flatMap Region.rewritten ++ p) + (before.map Region.lost).sum := by
    have htags : ∀ t, .tag t ∈ before → t.IsTag .standard (byLength names) := fun t ht => by
      have hmem : .tag t ∈ parts := by
        rw [hparts]
        exact List.mem_append_left _ ht
      exact isTag_of_mem_regions hmem
    exact lineBreaks_regions htags p
  refine ⟨regions_source .., hrewritten, fun before part after p q hparts hpart hp => ?_, fun t ht hfinish => ?_⟩
  · have hlines := hregions hparts p
    refine ⟨(Region.rewritten_of_ne_tag hpart).trans hp, hlines, ?_⟩
    have hlost : ∀ t : TagText, t.lost = 0 ↔ lineBreaks t.source = lineBreaks t.name := by
      intro t
      rw [t.lineBreaks_source]
      omega
    simp only [← hlost, ← sum_lost_eq_zero_iff]
    omega
  · have hstands := (tokenize_lines ho _ t ht).resolve_right fun h => hfinish h.1
    obtain ⟨a, b, hab, hb, hline, hbegins⟩ := hstands.exists_place
    obtain ⟨before, part, after, p, q, hparts, hp, hq, rfl, rfl⟩ := exists_of_flatMap_eq (hrewritten.trans hab) hb
    refine ⟨before, part, after, p, q, hparts, hp, hq, hbegins, hline, fun _ => ?_⟩
    rw [hregions hparts p, hline]
    omega

/-- A tag over two lines. -/
def wrapped : TagText := ⟨"\x7b%".toList, " ".toList, "include_file".toList, " p.html\n".toList, "%\x7d".toList⟩

theorem regions_wrapped :
    regions .standard (byLength ["include_file".toList]) (wrapped.source ++ "\n\x7b% nope %\x7d".toList) =
      .tag wrapped :: "\n\x7b% nope %\x7d".toList.map .plain := by
  decide +kernel

theorem rewriteTags_lines_wrapped :
    Options.standard.delimiters = .standard ∧
      lineBreaks (wrapped.source ++ "\n\x7b% ".toList) = lineBreaks (wrapped.rewritten ++ "\n\x7b% ".toList) + 1 := by
  have hplain : (∀ t, Region.plain 'n' ≠ .tag t) := nofun
  have hlines := (rewriteTags_lines (o := .standard) rfl ["include_file".toList]
    (wrapped.source ++ "\n\x7b% nope %\x7d".toList)).2.2.1 (.tag wrapped :: "\n\x7b% ".toList.map .plain) (.plain 'n')
    ("ope %\x7d".toList.map .plain) [] ['n'] regions_wrapped hplain rfl
  exact ⟨rfl, hlines.2.1⟩

/-- The line of a fault of a text, if it has one. -/
def faultLine? {α : Type} : Except Fault α → Option Nat
  | .error (.syntaxError _ line) => some line
  | _ => none

/-- The unknown tag stands on the third line, and is reported on the second. -/
theorem parse_wrapped_line :
    lineBreaks (wrapped.source ++ "\n\x7b% ".toList) = 2 ∧
      faultLine? (parse ["include_file"] (tokenize .standard (rewriteTags .standard ["include_file".toList]
        (wrapped.source ++ "\n\x7b% nope %\x7d".toList)))).1 = some 2 := by
  decide +kernel

end Transclusion.Template

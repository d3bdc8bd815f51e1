import Transclusion.Proofs.Clerks
import Transclusion.Proofs.Lexing
import Transclusion.Proofs.Parsing

/-! Rewriting keeps all but the markup of directive tags.

Every reader takes a piece from the start of a text and leaves the rest of it, so
that the regions of a text, put together again, are the text (`regions_source`):
raw regions and comments, directive tags, and single characters between them. Of
a directive tag the marks and the name stand where they stood, and its markup
becomes a literal that is read as the markup without the blanks around it. These
blanks make no difference to the invocation. -/
namespace Transclusion

namespace Template

variable {d : Delimiters} {names : List (List Char)} {cs taken rest : List Char}

/-! ### Raw regions and comments -/

/-- A block that holds a word is taken as it stands, from its opening to its closing. -/
theorem mem_wordBlocks {word : List Char} (h : (taken, rest) ∈ wordBlocks d word cs) :
    cs = taken ++ rest ∧ d.blockStart <+: taken ∧ d.blockEnd <:+ taken := by
  unfold wordBlocks at h
  simp only at h
  split at h
  · simp at h
  · next opening after hblock =>
    simp only [Option.bind_eq_bind, Option.bind_eq_some_iff, Prod.exists, Option.some.injEq, Prod.mk.injEq] at hblock
    obtain ⟨start, more, hstart, w, r, hword, rfl, rfl⟩ := hblock
    obtain ⟨rfl, rfl⟩ := mark?_eq hstart
    obtain ⟨rfl, hrest⟩ := mark?_eq hword
    obtain ⟨⟨blanks, behind⟩, hcut, hclose⟩ := List.mem_filterMap.1 h
    simp only [Option.map_eq_some_iff, Prod.exists, Prod.mk.injEq] at hclose
    obtain ⟨close, r', hclose, rfl, rfl⟩ := hclose
    obtain ⟨closeSign, -, hclosing, hbehind⟩ := signedMark?_eq hclose
    obtain ⟨hr, -⟩ := mem_blankCuts hcut
    have hsplit := List.takeWhile_append_dropWhile (p := Text.isBlank) (l := (cutSign more).2)
    rw [hrest, hr, hbehind] at hsplit
    refine ⟨?_, ?_, ?_⟩
    · conv =>
        lhs
        rw [(cutSign_eq more).1, ← hsplit]
      simp only [List.append_assoc]
    · simp only [List.append_assoc]
      exact List.prefix_append ..
    · rw [hclosing, ← List.append_assoc]
      exact List.suffix_append ..

theorem rawRegion?_eq (h : rawRegion? d cs = some (taken, rest)) :
    cs = taken ++ rest ∧ d.blockStart <+: taken ∧ d.blockEnd <:+ taken := by
  obtain ⟨⟨opening, after⟩, hopening, hclosing⟩ := List.exists_of_findSome?_eq_some h
  simp only [Option.bind_eq_bind, Option.bind_eq_some_iff, Prod.exists, Option.some.injEq, Prod.mk.injEq]
    at hclosing
  obtain ⟨inner, closing, r, hfirst, rfl, rfl⟩ := hclosing
  have hreader : ∀ cs taken rest, (wordBlocks d "endraw".toList cs).head? = some (taken, rest) →
      cs = taken ++ rest := fun cs taken rest hhead => (mem_wordBlocks (List.mem_of_head? hhead)).1
  obtain ⟨heq, hstart, -⟩ := mem_wordBlocks hopening
  obtain ⟨hafter, hhead⟩ := firstTaken?_eq hreader hfirst
  obtain ⟨-, -, hend⟩ := mem_wordBlocks (List.mem_of_head? hhead)
  refine ⟨by rw [heq, hafter]; simp, ?_, hend.trans (List.suffix_append ..)⟩
  rw [List.append_assoc]
  exact hstart.trans (List.prefix_append ..)

theorem comment?_eq (h : comment? d cs = some (taken, rest)) :
    cs = taken ++ rest ∧ d.commentStart <+: taken ∧ d.commentEnd <:+ taken := by
  unfold comment? at h
  simp only [Option.bind_eq_bind, Option.bind_eq_some_iff, Prod.exists, Option.some.injEq, Prod.mk.injEq] at h
  obtain ⟨opening, after, hopening, inner, closing, r, hfirst, rfl, rfl⟩ := h
  obtain ⟨rfl, rfl⟩ := mark?_eq hopening
  have hreader : ∀ cs taken rest, mark? d.commentEnd cs = some (taken, rest) → cs = taken ++ rest :=
    fun cs taken rest hmark => (mark?_eq hmark).1 ▸ (mark?_eq hmark).2
  obtain ⟨hafter, hend⟩ := firstTaken?_eq hreader hfirst
  refine ⟨by rw [hafter]; simp, ?_, (mark?_eq hend).1 ▸ List.suffix_append ..⟩
  rw [List.append_assoc]
  exact List.prefix_append ..

/-! ### Directive tags -/

/-- A tag of one of the names: marks with their signs around blanks, the name and the markup. -/
structure TagText.IsTag (t : TagText) (d : Delimiters) (names : List (List Char)) : Prop where
  name : t.name ∈ names
  opening : ∃ sign ∈ [[], ['-'], ['+']], t.opening = d.blockStart ++ sign
  blanks : ∀ c ∈ t.blanks, Text.isBlank c = true
  closing : ∃ sign ∈ [[], ['-'], ['+']], t.closing = sign ++ d.blockEnd

theorem tag?_eq {t : TagText} (h : tag? d names cs = some (t, rest)) :
    cs = t.source ++ rest ∧ t.IsTag d names ∧ endsName d (t.markup ++ t.closing ++ rest) = true := by
  unfold tag? at h
  simp only [Option.bind_eq_bind, Option.bind_eq_some_iff, Prod.exists] at h
  obtain ⟨start, more, hstart, hcuts⟩ := h
  obtain ⟨rfl, rfl⟩ := mark?_eq hstart
  obtain ⟨⟨sign, cs₁⟩, hsignCut, h⟩ := List.exists_of_findSome?_eq_some hcuts
  obtain ⟨⟨blanks, cs₂⟩, hblanksCut, h⟩ := List.exists_of_findSome?_eq_some h
  obtain ⟨name, hname, h⟩ := List.exists_of_findSome?_eq_some h
  obtain ⟨⟨word, cs₃⟩, hword, h⟩ := Option.bind_eq_some_iff.1 h
  obtain ⟨rfl, rfl⟩ := mark?_eq hword
  split at h
  · next hends =>
    obtain ⟨⟨markup, closing, cs₄⟩, hfirst, h⟩ := Option.bind_eq_some_iff.1 h
    simp only [Option.some.injEq, Prod.mk.injEq] at h
    obtain ⟨rfl, rfl⟩ := h
    obtain ⟨rfl, hsign⟩ := mem_signCuts hsignCut
    obtain ⟨rfl, hblanks⟩ := mem_blankCuts hblanksCut
    have hreader : ∀ cs taken rest, signedMark? d.blockEnd cs = some (taken, rest) → cs = taken ++ rest := by
      intro cs taken rest htaken
      obtain ⟨-, -, -, hcs⟩ := signedMark?_eq htaken
      exact hcs
    obtain ⟨rfl, hclosing⟩ := firstTaken?_eq hreader hfirst
    obtain ⟨closeSign, hcloseSign, hclose, -⟩ := signedMark?_eq hclosing
    exact ⟨by simp [TagText.source], ⟨hname, ⟨sign, hsign, rfl⟩, hblanks, ⟨closeSign, hcloseSign, hclose⟩⟩, hends⟩
  · simp at h

/-! ### The regions of a text -/

theorem region?_eq {region : Region} (h : region? d names cs = some (region, rest)) :
    cs = region.source ++ rest ∧ ∀ t, region = .tag t → t.IsTag d names := by
  unfold region? at h
  split at h
  · next text after hraw =>
    simp only [Option.some.injEq, Prod.mk.injEq] at h
    obtain ⟨rfl, rfl⟩ := h
    exact ⟨(rawRegion?_eq hraw).1, by simp⟩
  · split at h
    · next text after hcomment =>
      simp only [Option.some.injEq, Prod.mk.injEq] at h
      obtain ⟨rfl, rfl⟩ := h
      exact ⟨(comment?_eq hcomment).1, by simp⟩
    · simp only [Option.map_eq_some_iff, Prod.exists, Prod.mk.injEq] at h
      obtain ⟨t, after, htag, rfl, rfl⟩ := h
      obtain ⟨heq, hisTag, -⟩ := tag?_eq htag
      exact ⟨heq, fun t' ht => by cases ht; exact hisTag⟩

/-- The regions of a text, put together, are the text. -/
theorem regions_source (d : Delimiters) (names : List (List Char)) (cs : List Char) :
    (regions d names cs).flatMap Region.source = cs := by
  fun_induction regions d names cs with
  | case1 => rfl
  | case2 c rest region after hregion hlt ih =>
    rw [List.flatMap_cons, ih]
    exact (region?_eq hregion).1.symm
  | case3 c rest region after hregion hlt ih =>
    rw [List.flatMap_cons, ih]
    rfl
  | case4 c rest hregion ih =>
    rw [List.flatMap_cons, ih]
    rfl

theorem isTag_of_mem_regions {t : TagText} (h : .tag t ∈ regions d names cs) : t.IsTag d names := by
  fun_induction regions d names cs with
  | case1 => simp at h
  | case2 c rest region after hregion hlt ih =>
    rcases List.mem_cons.1 h with h | h
    · exact (region?_eq hregion).2 t h.symm
    · exact ih h
  | case3 c rest region after hregion hlt ih =>
    rcases List.mem_cons.1 h with h | h
    · cases h
    · exact ih h
  | case4 c rest hregion ih =>
    rcases List.mem_cons.1 h with h | h
    · cases h
    · exact ih h

/-- Names in the order of their lengths are the same names. -/
theorem mem_byLength {name : List Char} : name ∈ byLength names ↔ name ∈ names := by
  have hinsert (n : List Char) (rest : List (List Char)) :
      name ∈ insertByLength n rest ↔ name = n ∨ name ∈ rest := by
    induction rest with
    | nil => simp [insertByLength]
    | cons m rest ih =>
      unfold insertByLength
      split
      · simp
      · simp only [List.mem_cons, ih]
        exact or_left_comm
  induction names with
  | nil => simp [byLength]
  | cons n rest ih =>
    have hrest : name ∈ byLength (n :: rest) ↔ name = n ∨ name ∈ byLength rest := hinsert n (byLength rest)
    exact hrest.trans ((or_congr_right ih).trans List.mem_cons.symm)

/-! ### Rewritten tags -/

/-- A text without directives is rewritten to itself. -/
theorem rewriteTags_eq (d : Delimiters) (names : List (List Char)) (cs : List Char) :
    rewriteTags d names cs = (regions d (byLength names) cs).flatMap Region.rewritten := by
  unfold rewriteTags
  split
  · next hnames =>
    have hsame : ∀ region ∈ regions d (byLength names) cs, region.rewritten = region.source := by
      intro region hregion
      cases region with
      | plain c => rfl
      | kept text => rfl
      | tag t => exact absurd (mem_byLength.1 (isTag_of_mem_regions hregion).name) (by simp [hnames])
    have hflat : (regions d (byLength names) cs).flatMap Region.rewritten =
        (regions d (byLength names) cs).flatMap Region.source := by
      rw [List.flatMap_def, List.flatMap_def, List.map_congr_left hsame]
    rw [hflat, regions_source]
  · rfl

/-- The closing of a tag is found at its place, whatever comes behind. -/
theorem TagText.IsTag.closes {t : TagText} (ht : t.IsTag .standard names) (rest : List Char) :
    signedMark? Delimiters.standard.blockEnd (t.closing ++ rest) = some (t.closing, rest) := by
  obtain ⟨sign, hsign, hclosing⟩ := ht.closing
  rw [hclosing]
  rcases sign_cases hsign with rfl | rfl | rfl <;> rfl

/-- The blanks around markup make no difference to what is prepared. -/
theorem prepare_strip (clerk : Inclusion.Clerk) (tag : String) (markup : List Char) :
    clerk.prepare tag (Text.strip markup) = clerk.prepare tag markup := by
  have hmarkup (strategy : Directive.Strategy) : Directive.Invocation.ofMarkup tag (Text.strip markup) strategy =
      Directive.Invocation.ofMarkup tag markup strategy := by
    unfold Directive.Invocation.ofMarkup Directive.Markup.of
    rw [Text.strip_strip]
  unfold Inclusion.Clerk.prepare
  simp only [hmarkup]

/-- A rewritten tag is read back: its literal, by the lexer and by the parser, as the markup that was written. -/
structure TagText.IsReadBack (t : TagText) : Prop where
  /-- The marks and the name are as they were, and the markup is a literal that ends at its own closing mark,
  whatever comes behind, and is read as the markup without the blanks around it. -/
  literal : ∃ body, t.rewritten = t.opening ++ ' ' :: t.name ++ ' ' :: '"' :: body ++ '"' :: ' ' :: t.closing ∧
    (∀ rest, literalBody? '"' (body ++ '"' :: rest) = some (body, rest)) ∧
    literalText body = .ok (Text.strip t.markup)
  /-- Behind the opening the lexer finds the name, the markup and the end of the block. -/
  tokens (o : Options) (size line fuel : Nat) (inner rest : List Char) : o.delimiters = .standard →
    IsWord t.name → t.rewritten = t.opening ++ inner → ∃ next,
      Cursor.tokens o size (fuel + 6) false ⟨.block, [], line, inner ++ rest⟩ =
        [⟨line, .name (String.ofList t.name)⟩, ⟨line, .string (String.ofList (Text.strip t.markup))⟩,
          ⟨line, .blockEnd⟩] ++ Cursor.tokens o size fuel false next
  /-- A directive in front of these tokens is met with the markup. -/
  met (tag : String) (line : Nat) (before after : Reading) :
    Parser.Before before after line (String.ofList (Text.strip t.markup)) →
      (Parser.directiveTag tag line).start before = (.ok (.directive tag (Text.strip t.markup)),
        { after with met := after.met ++ [(tag, Text.strip t.markup)] })
  /-- What is prepared for it is what is prepared for the markup as it was written. -/
  prepared (clerk : Inclusion.Clerk) (tag : String) :
    clerk.prepare tag (Text.strip t.markup) = clerk.prepare tag t.markup

theorem TagText.IsTag.readBack {t : TagText} (ht : t.IsTag .standard names) : t.IsReadBack where
  literal := by
    refine ⟨literalBody (Text.strip t.markup), ?_, literalBody?_literalBody _, literalText_literalBody _⟩
    have hliteral := literal_eq (Text.strip t.markup) (' ' :: t.closing)
    simp [TagText.rewritten, hliteral]
  tokens o size line fuel inner rest ho hword hinner := by
    have htext : t.rewritten = t.opening ++
        ' ' :: (t.name ++ ' ' :: (Text.literal .transparent (Text.strip t.markup) ++ ' ' :: t.closing)) := by
      simp [TagText.rewritten]
    obtain rfl := List.append_cancel_left (hinner.symm.trans htext)
    have htokens := tokens_tag ho size false (Text.strip t.markup) hword (ht.closes rest) line fuel
    simpa using htokens
  met tag line before after hbefore := by
    have hmet := Parser.directiveTag_literal hbefore tag line
    rw [String.toList_ofList] at hmet
    exact hmet
  prepared clerk tag := prepare_strip clerk tag t.markup

/-- Rewriting changes nothing but the directive tags that the scan finds: raw regions, comments and all other
text are regions that stay as they are. Each tag has one of the names, blanks before it and marks with their
signs, which stay, and is read back as the markup that was written. -/
theorem rewriteTags_literals (names : List (List Char)) (cs : List Char) :
    let parts := regions .standard (byLength names) cs
    parts.flatMap Region.source = cs ∧
    rewriteTags .standard names cs = parts.flatMap Region.rewritten ∧
    (∀ part ∈ parts, (∀ t, part ≠ .tag t) → part.rewritten = part.source) ∧
    ∀ t, .tag t ∈ parts → t.IsTag .standard names ∧ t.IsReadBack := by
  intro parts
  refine ⟨regions_source _ _ _, rewriteTags_eq _ _ _, fun part _ hpart => ?_, fun t ht => ?_⟩
  · cases part with
    | plain c => rfl
    | kept text => rfl
    | tag t => exact absurd rfl (hpart t)
  · have htag : t.IsTag .standard (byLength names) := isTag_of_mem_regions ht
    exact ⟨⟨mem_byLength.1 htag.name, htag.opening, htag.blanks, htag.closing⟩, htag.readBack⟩

end Template

end Transclusion

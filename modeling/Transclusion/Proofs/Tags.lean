import Transclusion.Proofs.Literals

/-! Tags and their tokens.

A tag is read in two ways, by the scan that rewrites directives and by the lexer.
The readers of the scan take a piece from the start of a text and leave the rest
of it. The lexer takes the same marks, and perhaps more: where a mark closes a
block for the scan it closes one for the lexer, which may take blanks behind it
(`closeMark?_of_signedMark?`). In a tag that holds a name and a literal it finds
just these two and the end of the block (`tokens_tag_behind`). -/
namespace Transclusion.Template

open Text (literal)

variable {cs taken rest : List Char}

/-! ### What readers take -/

theorem mark?_eq {mark : List Char} (h : mark? mark cs = some (taken, rest)) :
    taken = mark ∧ cs = mark ++ rest := by
  unfold mark? at h
  split at h
  · next hp =>
    obtain ⟨more, rfl⟩ := List.isPrefixOf_iff_prefix.1 hp
    simp only [List.drop_left, Option.some.injEq, Prod.mk.injEq] at h
    exact ⟨h.1.symm, by rw [h.2]⟩
  · simp at h

/-- A sign before a mark, if there is one, is a hyphen or a plus. -/
theorem sign_cases {sign : List Char} (h : sign ∈ [[], ['-'], ['+']]) : sign = [] ∨ sign = ['-'] ∨ sign = ['+'] := by
  simpa using h

theorem isSign_cases {c : Char} (h : isSign c = true) : c = '-' ∨ c = '+' := by simpa [isSign] using h

theorem cutSign_eq (cs : List Char) :
    cs = (cutSign cs).1 ++ (cutSign cs).2 ∧ (cutSign cs).1 ∈ [[], ['-'], ['+']] := by
  unfold cutSign
  split
  · next c rest =>
    split
    · next hsign =>
      rcases isSign_cases hsign with rfl | rfl <;> simp
    · simp
  · simp

/-- A mark behind a sign or alone. -/
theorem signedMark?_eq {mark : List Char} (h : signedMark? mark cs = some (taken, rest)) :
    ∃ sign ∈ [[], ['-'], ['+']], taken = sign ++ mark ∧ cs = taken ++ rest := by
  unfold signedMark? at h
  split at h
  · next c more =>
    split at h
    · next hsign =>
      obtain ⟨hc, hp⟩ := Bool.and_eq_true_iff.1 hsign
      obtain ⟨after, rfl⟩ := List.isPrefixOf_iff_prefix.1 hp
      simp only [List.drop_left, Option.some.injEq, Prod.mk.injEq] at h
      obtain ⟨rfl, rfl⟩ := h
      refine ⟨[c], ?_, rfl, by simp⟩
      rcases isSign_cases hc with rfl | rfl <;> simp
    · obtain ⟨rfl, hcs⟩ := mark?_eq h
      exact ⟨[], by simp, rfl, hcs⟩
  · obtain ⟨rfl, hcs⟩ := mark?_eq h
    exact ⟨[], by simp, rfl, hcs⟩

theorem mem_blankCuts {blanks : List Char} (h : (blanks, rest) ∈ blankCuts cs) :
    cs = blanks ++ rest ∧ ∀ c ∈ blanks, Text.isBlank c = true := by
  induction cs generalizing blanks with
  | nil =>
    simp only [blankCuts, List.mem_singleton, Prod.mk.injEq] at h
    obtain ⟨rfl, rfl⟩ := h
    simp
  | cons c cs ih =>
    unfold blankCuts at h
    split at h
    · next hblank =>
      rcases List.mem_append.1 h with h | h
      · obtain ⟨⟨b, r⟩, hb, heq⟩ := List.mem_map.1 h
        obtain ⟨rfl, rfl⟩ := Prod.mk.inj heq
        obtain ⟨rfl, hall⟩ := ih hb
        exact ⟨rfl, by simpa [hblank] using hall⟩
      · obtain ⟨rfl, rfl⟩ := Prod.mk.inj (List.mem_singleton.1 h)
        simp
    · obtain ⟨rfl, rfl⟩ := Prod.mk.inj (List.mem_singleton.1 h)
      simp

theorem mem_signCuts {sign : List Char} (h : (sign, rest) ∈ signCuts cs) :
    cs = sign ++ rest ∧ sign ∈ [[], ['-'], ['+']] := by
  obtain ⟨hcs, hsign⟩ := cutSign_eq cs
  unfold signCuts at h
  split at h
  · next more hcut =>
    rw [hcut] at hcs
    obtain ⟨rfl, rfl⟩ := Prod.mk.inj (List.mem_singleton.1 h)
    exact ⟨hcs, by simp⟩
  · next s more _ hcut =>
    rw [hcut] at hcs hsign
    rcases List.mem_cons.1 h with h | h
    · obtain ⟨rfl, rfl⟩ := Prod.mk.inj h
      exact ⟨hcs, hsign⟩
    · obtain ⟨rfl, rfl⟩ := Prod.mk.inj (List.mem_singleton.1 h)
      exact ⟨rfl, by simp⟩

/-- What a lexer takes where it finds a mark alone: the line end behind it too, where such a closing is one. -/
def Closing.withLineEnd (form : Closing) (found : List Char × List Char) : List Char × List Char :=
  if form.lineEnd = true ∧ found.2.head? = some '\n' then (found.1 ++ ['\n'], found.2.tail) else found

theorem Closing.withLineEnd_eq (form : Closing) (taken rest : List Char) :
    ∃ eaten after, form.withLineEnd (taken, rest) = (taken ++ eaten, after) ∧ rest = eaten ++ after ∧
      ∀ c ∈ eaten, Text.isBlank c = true := by
  unfold withLineEnd
  by_cases h : form.lineEnd = true ∧ rest.head? = some '\n'
  · obtain ⟨after, rfl⟩ := List.head?_eq_some_iff.1 h.2
    exact ⟨['\n'], after, if_pos h, rfl, List.forall_mem_singleton.2 (by decide)⟩
  · exact ⟨[], rest, by rw [if_neg h, List.append_nil], rfl, by simp⟩

/-- A closing mark is one behind a sign, or one alone. -/
theorem closeMark?_cons (form : Closing) (mark : List Char) (c : Char) (cs : List Char) :
    closeMark? form mark (c :: cs) =
      if c = '-' ∧ mark.isPrefixOf cs then
        some ('-' :: mark ++ (cs.drop mark.length).takeWhile Text.isBlank,
          (cs.drop mark.length).dropWhile Text.isBlank)
      else if form.plus ∧ c = '+' ∧ mark.isPrefixOf cs then some (c :: mark, cs.drop mark.length)
      else (mark? mark (c :: cs)).map form.withLineEnd := by
  unfold closeMark?
  simp only
  congr 2
  cases mark? mark (c :: cs) with
  | none => rfl
  | some found =>
    obtain ⟨taken, rest⟩ := found
    simp only [Option.bind_eq_bind, Option.bind_some, Option.map_some, Closing.withLineEnd]
    split
    · next more => by_cases hform : form.lineEnd = true <;> simp [hform]
    · next hfeed =>
      rw [if_neg]
      rintro ⟨-, hhead⟩
      obtain ⟨after, rfl⟩ := List.head?_eq_some_iff.1 hhead
      exact hfeed after rfl

theorem closeMark?_nil (form : Closing) (mark : List Char) :
    closeMark? form mark [] = (mark? mark []).map form.withLineEnd := by
  cases mark with
  | nil => simp [closeMark?, mark?, Closing.withLineEnd]
  | cons m mark => rfl

/-- A mark without a sign is found alone. -/
theorem closeMark?_alone {form : Closing} {mark : List Char}
    (hsign : ∀ c more, cs = c :: more → mark.isPrefixOf more = true → isSign c = false)
    (h : mark? mark cs = some (taken, rest)) :
    ∃ more after, closeMark? form mark cs = some (taken ++ more, after) ∧ rest = more ++ after ∧
      ∀ c ∈ more, Text.isBlank c = true := by
  obtain ⟨more, after, hfound, hsplit, hblank⟩ := form.withLineEnd_eq taken rest
  refine ⟨more, after, ?_, hsplit, hblank⟩
  rw [← hfound]
  cases cs with
  | nil => rw [closeMark?_nil, h, Option.map_some]
  | cons c cs =>
    have hminus : ¬(c = '-' ∧ mark.isPrefixOf cs = true) := by
      rintro ⟨rfl, hp⟩
      exact absurd (hsign _ _ rfl hp) (by decide)
    have hplus : ¬(form.plus = true ∧ c = '+' ∧ mark.isPrefixOf cs = true) := by
      rintro ⟨-, rfl, hp⟩
      exact absurd (hsign _ _ rfl hp) (by decide)
    rw [closeMark?_cons, if_neg hminus, if_neg hplus, h, Option.map_some]

/-- Where the scan finds a mark that closes a block, the lexer finds it, and perhaps takes blanks behind. -/
theorem closeMark?_of_signedMark? (form : Closing) (hform : form.plus = true) {mark : List Char}
    (h : signedMark? mark cs = some (taken, rest)) :
    ∃ more after, closeMark? form mark cs = some (taken ++ more, after) ∧ rest = more ++ after ∧
      ∀ c ∈ more, Text.isBlank c = true := by
  cases cs with
  | nil => exact closeMark?_alone (by simp) h
  | cons c cs =>
    simp only [signedMark?] at h
    split at h
    · next hsign =>
      obtain ⟨hc, hp⟩ := Bool.and_eq_true_iff.1 hsign
      simp only [Option.some.injEq, Prod.mk.injEq] at h
      obtain ⟨rfl, rfl⟩ := h
      rcases isSign_cases hc with rfl | rfl
      · refine ⟨_, _, ?_, (List.takeWhile_append_dropWhile (p := Text.isBlank)).symm, ?_⟩
        · rw [closeMark?_cons, if_pos ⟨rfl, hp⟩]
        · exact fun c hc => List.mem_takeWhile_imp hc
      · refine ⟨[], _, ?_, rfl, by simp⟩
        rw [closeMark?_cons]
        simp [hp, hform]
    · next hsign =>
      refine closeMark?_alone ?_ h
      rintro c' more heq hp
      obtain ⟨rfl, rfl⟩ := List.cons.inj heq
      rw [hp, Bool.and_true] at hsign
      exact Bool.eq_false_iff.2 hsign

/-! ### Tokens of a tag -/

/-- A run of the characters of names, one at least. -/
structure IsRun (name : List Char) : Prop where
  ne_nil : name ≠ []
  chars : ∀ c ∈ name, Text.isWordChar c = true

/-- A name that a lexer takes as one token, and for nothing else. -/
structure IsWord (name : List Char) : Prop where
  chars : ∀ c ∈ name, Text.isWordChar c = true
  head : ∀ c, name.head? = some c → Text.isBlank c = false ∧ isDecimalDigit c = false ∧ c.isDigit = false
  identifier : Text.isIdentifier name = true

instance (name : List Char) : Decidable (IsWord name) :=
  decidable_of_iff (name.all Text.isWordChar = true ∧
      (name.head?.all fun c => !Text.isBlank c && (!isDecimalDigit c && !c.isDigit)) = true ∧
      Text.isIdentifier name = true) <| by
    constructor
    · rintro ⟨hchars, hhead, hidentifier⟩
      refine ⟨List.all_eq_true.1 hchars, fun c hc => ?_, hidentifier⟩
      rw [hc] at hhead
      simpa using hhead
    · rintro ⟨hchars, hhead, hidentifier⟩
      refine ⟨List.all_eq_true.2 hchars, ?_, hidentifier⟩
      cases hc : name.head? with
      | none => rfl
      | some c => simpa using hhead c hc

theorem IsWord.exists_cons {name : List Char} (h : IsWord name) : ∃ c cs, name = c :: cs := by
  cases name with
  | nil => exact absurd h.identifier (by decide)
  | cons c cs => exact ⟨c, cs, rfl⟩

theorem IsWord.isRun {name : List Char} (h : IsWord name) : IsRun name := by
  obtain ⟨c, cs, rfl⟩ := h.exists_cons
  exact ⟨List.cons_ne_nil c cs, h.chars⟩

section
variable {o : Options} (ho : o.delimiters = .standard) (size : Nat) (afterPoint : Bool) (c : Cursor)
include ho

/-- A tag closes at a sign or at one of the characters of the marks only. -/
theorem tagClosing?_eq_none {ch : Char} {cs : List Char} (hch : ch ∉ ['-', '+', '%', '}'])
    (hrest : c.rest = ch :: cs) : (if c.brackets = [] then tagClosing? o c.mode c.rest else none) = none := by
  simp only [List.mem_cons, List.not_mem_nil, or_false, not_or] at hch
  obtain ⟨hminus, hplus, hpercent, hbrace⟩ := hch
  have hnone (mark : List Char) (form : Closing) (h : mark.head? = some '%' ∨ mark.head? = some '}') :
      closeMark? form mark (ch :: cs) = none := by
    have hmark : mark? mark (ch :: cs) = none := by
      cases mark with
      | nil => simp at h
      | cons m mark =>
        have hm : m ≠ ch := by
          rintro rfl
          rcases h with h | h <;> simp_all
        simp [mark?, hm]
    simp [closeMark?_cons, hminus, hplus, hmark]
  rw [hrest]
  unfold tagClosing?
  split
  · split
    · rw [ho, hnone _ _ (.inl rfl)]; rfl
    · rw [ho, hnone _ _ (.inr rfl)]; rfl
  · rfl

/-- Blanks between tokens leave none. -/
theorem tagMove_blanks {ch : Char} {cs : List Char} (hrest : c.rest = ch :: cs) (hch : Text.isBlank ch = true) :
    tagMove o size afterPoint c = .go [] { c with
      line := c.line + Text.lineFeeds (c.rest.takeWhile Text.isBlank), rest := c.rest.dropWhile Text.isBlank } := by
  have hclosing : ch ∉ ['-', '+', '%', '}'] := by
    intro hmem
    simp only [List.mem_cons, List.not_mem_nil, or_false] at hmem
    rcases hmem with rfl | rfl | rfl | rfl <;> exact absurd hch (by decide)
  have hopen := tagClosing?_eq_none ho c hclosing hrest
  unfold tagMove
  simp only [hopen]
  simp only [hrest, hch, if_true]

/-- A blank between tokens leaves none. -/
theorem tagMove_blank {more : List Char} (hrest : c.rest = ' ' :: more)
    (hmore : ∀ ch, more.head? = some ch → Text.isBlank ch = false) :
    tagMove o size afterPoint c = .go [] { c with rest := more } := by
  have hblank : ∀ ch ∈ [' '], Text.isBlank ch = true := List.forall_mem_singleton.2 (by decide)
  obtain ⟨htake, hdrop⟩ := Directive.span_run more hblank hmore
  rw [tagMove_blanks ho size afterPoint c hrest (by decide), hrest, ← List.singleton_append, htake, hdrop]
  rfl

/-- Within a tag a literal is one token, the text that it was written for; behind it the lexer goes on. -/
theorem tagMove_literal (text rest : List Char) (hrest : c.rest = literal .transparent text ++ rest) :
    tagMove o size afterPoint c = .go [⟨c.line, .string (String.ofList text)⟩] { c with rest } := by
  have hfeed : '\n' ∉ literalBody text := fun h => absurd (le_of_mem_literalBody h) (by decide)
  have hlines : Text.lineFeeds (literalBody text) = 0 := List.count_eq_zero.2 hfeed
  have hbody := literalBody?_literalBody text rest
  have htext : literalText (withLineEnds o.lineEnd (literalBody text)) = .ok text := by
    rw [withLineEnds_eq hfeed, literalText_literalBody]
  rw [literal_eq] at hrest
  have hblank : Text.isBlank '"' = false := by decide
  have hdigit : isDecimalDigit '"' = false := by decide
  have hword : Text.isWordChar '"' = false := by decide
  have hopen := tagClosing?_eq_none ho c (by decide) hrest
  have hnumeral : (if afterPoint then none else numeral? c.rest) = none := by
    simp [hrest, numeral?, decimalRun?, hdigit]
  have hinteger : integer? c.rest = none := by rw [hrest]; rfl
  unfold tagMove
  simp only [hopen, hnumeral, hinteger]
  simp only [hrest, hblank, hword, hbody, htext, hlines, true_or, if_true, Bool.false_eq_true, if_false,
    Nat.add_zero]

/-- A name is one token up to what ends it. -/
theorem tagMove_name {name rest : List Char} (hname : IsWord name) (hrest : c.rest = name ++ rest)
    (hends : ∀ d, rest.head? = some d → Text.isWordChar d = false) :
    tagMove o size afterPoint c = .go [⟨c.line, .name (String.ofList name)⟩] { c with rest } := by
  obtain ⟨ch, cs, rfl⟩ := hname.exists_cons
  obtain ⟨hblank, hdecimal, hdigit⟩ := hname.head ch rfl
  have hword : Text.isWordChar ch = true := hname.chars ch (List.mem_cons_self ..)
  have hclosing : ch ∉ ['-', '+', '%', '}'] := by
    intro hmem
    simp only [List.mem_cons, List.not_mem_nil, or_false] at hmem
    rcases hmem with rfl | rfl | rfl | rfl <;> exact absurd hword (by decide)
  have hopen := tagClosing?_eq_none ho c hclosing hrest
  have hnumeral : (if afterPoint then none else numeral? c.rest) = none := by
    simp [hrest, numeral?, decimalRun?, hdecimal]
  have hinteger : integer? c.rest = none := by
    rw [hrest, List.cons_append]
    unfold integer?
    split
    · next heq =>
      obtain ⟨rfl, -⟩ := List.cons.inj heq
      exact absurd hdigit (by decide)
    · next heq =>
      obtain ⟨rfl, -⟩ := List.cons.inj heq
      simp [hdigit]
    · rfl
  obtain ⟨htake, hdrop⟩ := Directive.span_run rest hname.chars hends
  rw [← hrest] at htake hdrop
  have htoken : wordToken (ch :: cs) = .name (String.ofList (ch :: cs)) := by
    rw [wordToken, if_pos hname.identifier]
  unfold tagMove
  simp only [hopen, hnumeral, hinteger, htake, hdrop, htoken]
  simp only [hrest, List.cons_append, hblank, hword, Bool.false_eq_true, if_true, if_false]

/-- The closing of a block with its sign ends the block, and perhaps takes blanks behind it. -/
theorem tagMove_close {closing rest : List Char} (hmode : c.mode = .block) (hbrackets : c.brackets = [])
    (hclosing : signedMark? Delimiters.standard.blockEnd c.rest = some (closing, rest)) :
    ∃ more after, rest = more ++ after ∧ (∀ d ∈ more, Text.isBlank d = true) ∧
      tagMove o size afterPoint c = .go [⟨c.line, .blockEnd⟩] (.behind c.line (closing ++ more) after) := by
  obtain ⟨more, after, hclose, hsplit, hmore⟩ := closeMark?_of_signedMark? o.closing rfl hclosing
  refine ⟨more, after, hsplit, hmore, ?_⟩
  have hopen : tagClosing? o c.mode c.rest = some (.blockEnd, closing ++ more, after) := by
    rw [hmode, tagClosing?, ho, hclose]
    rfl
  unfold tagMove
  simp only [hbrackets, if_true, hopen]

omit ho c in
/-- One token of a block. -/
theorem tokens_block {line : Nat} {rest : List Char} {tokens : List Token} {next : Cursor}
    (h : tagMove o size afterPoint ⟨.block, [], line, rest⟩ = .go tokens next) (fuel : Nat) :
    Cursor.tokens o size (fuel + 1) afterPoint ⟨.block, [], line, rest⟩ =
      tokens ++ Cursor.tokens o size fuel (endsWithPoint tokens) next := by
  have hmove : Cursor.move o size afterPoint ⟨.block, [], line, rest⟩ = .go tokens next := h
  rw [Cursor.tokens, hmove]

omit c in
/-- In a tag that holds a name and a literal the lexer finds these two and the end of the block, and goes on behind
the closing and the blanks that this takes. -/
theorem tokens_tag_behind {name closing rest : List Char} (text : List Char) (hname : IsWord name)
    (hclosing : signedMark? Delimiters.standard.blockEnd (closing ++ rest) = some (closing, rest))
    (line fuel : Nat) :
    ∃ more after, rest = more ++ after ∧ (∀ d ∈ more, Text.isBlank d = true) ∧
      Cursor.tokens o size (fuel + 6) afterPoint ⟨.block, [], line, ' ' :: (name ++ ' ' ::
          (literal .transparent text ++ ' ' :: (closing ++ rest)))⟩ =
        [⟨line, .name (String.ofList name)⟩, ⟨line, .string (String.ofList text)⟩, ⟨line, .blockEnd⟩] ++
          Cursor.tokens o size fuel false (.behind line (closing ++ more) after) := by
  have hnameHead : ∀ ch, (name ++ ' ' :: (literal .transparent text ++ ' ' :: (closing ++ rest))).head? = some ch →
      Text.isBlank ch = false := by
    obtain ⟨first, more, rfl⟩ := hname.exists_cons
    rintro ch hch
    exact (hname.head ch hch).1
  have hliteralHead : ∀ ch, (literal .transparent text ++ ' ' :: (closing ++ rest)).head? = some ch →
      Text.isBlank ch = false := by
    rw [literal_eq]
    rintro ch hch
    obtain rfl := Option.some.inj hch
    decide
  have hclosingHead : ∀ ch, (closing ++ rest).head? = some ch → Text.isBlank ch = false := by
    obtain ⟨sign, hsign, rfl, -⟩ := signedMark?_eq hclosing
    rintro ch hch
    rcases sign_cases hsign with rfl | rfl | rfl <;> obtain rfl := Option.some.inj hch <;> decide
  have hspace : ∀ d, (' ' :: (literal .transparent text ++ ' ' :: (closing ++ rest))).head? = some d →
      Text.isWordChar d = false := by
    rintro d hd
    obtain rfl := Option.some.inj hd
    decide
  obtain ⟨more, after, hsplit, hmore, hend⟩ := tagMove_close ho size false ⟨.block, [], line, closing ++ rest⟩ rfl rfl
    hclosing
  refine ⟨more, after, hsplit, hmore, ?_⟩
  rw [tokens_block size afterPoint (tagMove_blank ho size afterPoint _ rfl hnameHead),
    tokens_block size _ (tagMove_name ho size _ _ hname rfl hspace),
    tokens_block size _ (tagMove_blank ho size _ _ rfl hliteralHead),
    tokens_block size _ (tagMove_literal ho size _ _ text _ rfl),
    tokens_block size _ (tagMove_blank ho size _ _ rfl hclosingHead)]
  show _ :: _ :: Cursor.tokens o size (fuel + 1) false ⟨.block, [], line, closing ++ rest⟩ = _
  rw [tokens_block size false hend]
  rfl

omit c in
/-- In a tag that holds a name and a literal the lexer finds these two and the end of the block. -/
theorem tokens_tag {name closing rest : List Char} (text : List Char) (hname : IsWord name)
    (hclosing : signedMark? Delimiters.standard.blockEnd (closing ++ rest) = some (closing, rest))
    (line fuel : Nat) :
    ∃ next, Cursor.tokens o size (fuel + 6) afterPoint ⟨.block, [], line, ' ' :: (name ++ ' ' ::
        (literal .transparent text ++ ' ' :: (closing ++ rest)))⟩ =
      [⟨line, .name (String.ofList name)⟩, ⟨line, .string (String.ofList text)⟩, ⟨line, .blockEnd⟩] ++
        Cursor.tokens o size fuel false next := by
  obtain ⟨more, after, -, -, htokens⟩ := tokens_tag_behind ho size afterPoint text hname hclosing line fuel
  exact ⟨_, htokens⟩

end

end Transclusion.Template

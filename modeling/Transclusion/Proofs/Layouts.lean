import Transclusion.Proofs.Scanning

/-! How pieces lie in a text.

The lexer walks through a text that is no longer the one in which the pieces were
found: directive tags have been rewritten, line ends unified, and a last line end
may have been dropped. What is left of a piece in it is laid down in `Laid`: data
in which nothing opens, and between them bodies that begin and end with a brace
(`Piece.Lies`), with blanks around them that belong to neither. None of the
changes makes a difference to that (`Laid.sourceText`), so the pieces of a source
lie, rewritten, in the text that the lexer reads (`laid_of_tiles`). -/
namespace Transclusion.Template

open Text (unifyLineEnds)

variable {o : Options} {names : List (List Char)} {cs rest : List Char}

/-! ### Line ends -/

theorem unifyLineEnds_both (cs : List Char) : unifyLineEnds ('\r' :: '\n' :: cs) = '\n' :: unifyLineEnds cs := by
  rw [unifyLineEnds]

theorem unifyLineEnds_one {c : Char} {cs : List Char} (h : ∀ more, c = '\r' → cs = '\n' :: more → False) :
    unifyLineEnds (c :: cs) = (if c = '\r' then '\n' else c) :: unifyLineEnds cs := by
  rw [unifyLineEnds]
  exact h

theorem unifyLineEnds_cons {c : Char} (hc : c ≠ '\r') (cs : List Char) :
    unifyLineEnds (c :: cs) = c :: unifyLineEnds cs := by
  rw [unifyLineEnds_one fun _ h _ => hc h, if_neg hc]

/-- A character is left out before a line feed, if it is a carriage return, or stays or becomes one. -/
theorem unifyLineEnds_step (c : Char) (cs : List Char) :
    (c = '\r' ∧ ∃ more, cs = '\n' :: more ∧ unifyLineEnds (c :: cs) = unifyLineEnds cs) ∨
      ∃ c', (c' = c ∨ c = '\r' ∧ c' = '\n') ∧ unifyLineEnds (c :: cs) = c' :: unifyLineEnds cs := by
  by_cases hc : c = '\r'
  · subst hc
    by_cases hfeed : ∃ more, cs = '\n' :: more
    · obtain ⟨more, rfl⟩ := hfeed
      exact .inl ⟨rfl, more, rfl, by rw [unifyLineEnds_both, unifyLineEnds_cons (c := '\n') (by decide)]⟩
    · refine .inr ⟨'\n', .inr ⟨rfl, rfl⟩, ?_⟩
      rw [unifyLineEnds_one fun more _ h => hfeed ⟨more, h⟩, if_pos rfl]
  · exact .inr ⟨c, .inl rfl, unifyLineEnds_cons hc _⟩

/-- Line ends are unified on both sides of a place where no line end stands. -/
theorem unifyLineEnds_append {c : Char} (hc : c ≠ '\n') (cs rest : List Char) :
    unifyLineEnds (cs ++ c :: rest) = unifyLineEnds cs ++ unifyLineEnds (c :: rest) := by
  fun_induction unifyLineEnds cs with
  | case1 => rfl
  | case2 cs ih =>
    rw [List.cons_append, List.cons_append, unifyLineEnds_both, ih]
    rfl
  | case3 d cs h ih =>
    rw [List.cons_append, unifyLineEnds_one, ih]
    · rfl
    · rintro more rfl heq
      cases cs with
      | nil => exact hc (List.cons.inj heq).1
      | cons e cs =>
        obtain ⟨rfl, -⟩ := List.cons.inj heq
        exact h cs rfl rfl

theorem unifyLineEnds_before_brace (h : ∃ more, rest = '{' :: more) (cs : List Char) :
    unifyLineEnds (cs ++ rest) = unifyLineEnds cs ++ unifyLineEnds rest := by
  obtain ⟨more, rfl⟩ := h
  exact unifyLineEnds_append (by decide) cs more

/-- Behind another character than a line end they are unified apart from those before it. -/
theorem unifyLineEnds_behind {c : Char} (hc : c ≠ '\r') (hc' : c ≠ '\n') (h : ∃ before, cs = before ++ [c])
    (rest : List Char) : unifyLineEnds (cs ++ rest) = unifyLineEnds cs ++ unifyLineEnds rest := by
  obtain ⟨before, rfl⟩ := h
  rw [List.append_assoc, List.singleton_append, unifyLineEnds_append hc', unifyLineEnds_append hc',
    unifyLineEnds_cons hc, unifyLineEnds_cons hc, List.append_assoc]
  rfl

theorem unifyLineEnds_behind_brace (h : ∃ before, cs = before ++ ['}']) (rest : List Char) :
    unifyLineEnds (cs ++ rest) = unifyLineEnds cs ++ unifyLineEnds rest :=
  unifyLineEnds_behind (by decide) (by decide) h rest

/-- A text without carriage returns stays as it is, whatever stands behind it. -/
theorem unifyLineEnds_append_left (h : '\r' ∉ cs) (rest : List Char) :
    unifyLineEnds (cs ++ rest) = cs ++ unifyLineEnds rest := by
  induction cs with
  | nil => rfl
  | cons c cs ih =>
    rw [List.mem_cons, not_or] at h
    rw [List.cons_append, unifyLineEnds_cons (Ne.symm h.1), ih h.2]
    rfl

/-- A part of a text with unified line ends is a part of the text with its line ends unified. -/
theorem exists_of_unifyLineEnds_eq {a b : List Char} (h : unifyLineEnds cs = a ++ b) :
    ∃ a' b', cs = a' ++ b' ∧ unifyLineEnds a' = a ∧ unifyLineEnds b' = b := by
  fun_induction unifyLineEnds cs generalizing a with
  | case1 =>
    obtain ⟨rfl, rfl⟩ := List.append_eq_nil_iff.1 h.symm
    exact ⟨[], [], rfl, rfl, rfl⟩
  | case2 cs ih =>
    cases a with
    | nil => exact ⟨[], '\r' :: '\n' :: cs, rfl, rfl, by rw [unifyLineEnds_both, h]; rfl⟩
    | cons c a =>
      obtain ⟨rfl, hbehind⟩ := List.cons.inj h
      obtain ⟨a', b', rfl, rfl, rfl⟩ := ih hbehind
      exact ⟨'\r' :: '\n' :: a', b', rfl, rfl, rfl⟩
  | case3 d cs hd ih =>
    cases a with
    | nil => exact ⟨[], d :: cs, rfl, rfl, by rw [unifyLineEnds_one hd, h]; rfl⟩
    | cons c a =>
      obtain ⟨rfl, hbehind⟩ := List.cons.inj h
      obtain ⟨a', b', rfl, rfl, rfl⟩ := ih hbehind
      refine ⟨d :: a', b', rfl, ?_, rfl⟩
      rw [unifyLineEnds_one]
      rintro more rfl rfl
      exact hd _ rfl rfl

/-- A text without line feeds comes from itself alone. -/
theorem unifyLineEnds_eq_self (h : '\n' ∉ unifyLineEnds cs) : unifyLineEnds cs = cs := by
  fun_induction unifyLineEnds cs with
  | case1 => rfl
  | case2 cs ih => exact absurd (List.mem_cons_self ..) h
  | case3 c cs hc ih =>
    rw [ih fun hmem => h (List.mem_cons_of_mem _ hmem)]
    split
    · next hreturn =>
      rw [if_pos hreturn] at h
      exact absurd (List.mem_cons_self ..) h
    · rfl

/-- Unifying line ends makes blanks of blanks and of nothing else. -/
theorem forall_isBlank_unifyLineEnds :
    (∀ c ∈ unifyLineEnds cs, Text.isBlank c = true) ↔ ∀ c ∈ cs, Text.isBlank c = true := by
  have hfeed : Text.isBlank '\n' = true := by decide
  have hreturn : Text.isBlank '\r' = true := by decide
  fun_induction unifyLineEnds cs with
  | case1 => rfl
  | case2 cs ih => simp [ih, hfeed, hreturn]
  | case3 c cs hc ih =>
    by_cases h : c = '\r'
    · simp [ih, h, hfeed, hreturn]
    · simp [ih, h]

/-- A part without line feeds stands there as it is. -/
theorem exists_of_unifyLineEnds_plain {a b : List Char} (h : unifyLineEnds cs = a ++ b) (ha : '\n' ∉ a) :
    ∃ b', cs = a ++ b' ∧ unifyLineEnds b' = b := by
  obtain ⟨a', b', rfl, rfl, hb⟩ := exists_of_unifyLineEnds_eq h
  exact ⟨b', by rw [unifyLineEnds_eq_self ha], hb⟩

theorem exists_of_unifyLineEnds_blanks {a b : List Char} (h : unifyLineEnds cs = a ++ b)
    (ha : ∀ c ∈ a, Text.isBlank c = true) :
    ∃ a' b', cs = a' ++ b' ∧ (∀ c ∈ a', Text.isBlank c = true) ∧ unifyLineEnds b' = b := by
  obtain ⟨a', b', rfl, rfl, hb⟩ := exists_of_unifyLineEnds_eq h
  exact ⟨a', b', rfl, forall_isBlank_unifyLineEnds.1 ha, hb⟩

/-! ### Blocks that hold a word -/

/-- A block that holds one word alone. -/
def IsWordBlock (form : Closing) (word block : List Char) : Prop :=
  ∃ sign ∈ [[], ['-'], ['+']], ∃ blanks blanks', (∀ c ∈ blanks ++ blanks', Text.isBlank c = true) ∧
    ∃ sign' ∈ form.signs, block = ['{', '%'] ++ sign ++ blanks ++ word ++ blanks' ++ sign' ++ ['%', '}']

/-- Such a block stands at the start of a text. -/
def HasWordBlock (form : Closing) (word cs : List Char) : Prop := ∃ block, IsWordBlock form word block ∧ block <+: cs

/-- What is neither a sign nor a blank nor a brace. -/
def IsLetter (c : Char) : Prop := isSign c = false ∧ Text.isBlank c = false ∧ c ≠ '{' ∧ c ≠ '}' ∧ c ≠ '"'

/-- The word of a block: letters, one at least. -/
def IsLettered (word : List Char) : Prop := word ≠ [] ∧ ∀ c ∈ word, IsLetter c

instance (c : Char) : Decidable (IsLetter c) := inferInstanceAs (Decidable (_ ∧ _))

instance (word : List Char) : Decidable (IsLettered word) :=
  decidable_of_iff (word ≠ [] ∧ word.all (IsLetter ·) = true) (by simp [IsLettered])

theorem isLettered_raw : IsLettered "raw".toList := by decide

theorem isLettered_endraw : IsLettered "endraw".toList := by decide

namespace IsLettered

variable {word : List Char} (h : IsLettered word)
include h

theorem exists_cons : ∃ c more, word = c :: more ∧ IsLetter c := by
  obtain ⟨c, more, rfl⟩ := List.exists_cons_of_ne_nil h.1
  exact ⟨c, more, rfl, h.2 c (List.mem_cons_self ..)⟩

theorem not_mem {c : Char} (hc : Text.isBlank c = true) : c ∉ word := by
  intro hmem
  rw [(h.2 c hmem).2.1] at hc
  cases hc

end IsLettered

section
variable {form : Closing} {word block : List Char} (hword : IsLettered word)

/-- A text begins with one without a character only if it does so before the character. -/
theorem prefix_of_not_mem {c : Char} {cs s rest : List Char} (h : cs <+: s ++ c :: rest) (hc : c ∉ cs) : cs <+: s := by
  by_cases hlength : cs.length ≤ s.length
  · exact List.prefix_of_prefix_length_le h (List.prefix_append ..) hlength
  · have hlonger : s ++ [c] <+: cs := by
      have hbegins : s ++ [c] <+: s ++ c :: rest := ⟨rest, by simp⟩
      exact List.prefix_of_prefix_length_le hbegins h (by simp; omega)
    exact absurd (hlonger.mem (by simp)) hc

include hword

/-- No brace and no quote stands within such a block. -/
theorem IsWordBlock.not_mem (h : IsWordBlock form word block) :
    ∃ inner, block = '{' :: inner ++ ['}'] ∧ '{' ∉ inner ∧ '}' ∉ inner ∧ '"' ∉ inner := by
  obtain ⟨sign, hsign, blanks, blanks', hblanks, sign', hsign', rfl⟩ := h
  refine ⟨'%' :: (sign ++ blanks ++ word ++ blanks' ++ sign' ++ ['%']), by simp, ?_⟩
  have hsign' : sign' ∈ [[], ['-'], ['+']] := by
    rcases Closing.mem_signs.1 hsign' with rfl | rfl | ⟨-, rfl⟩ <;> simp
  have hall : ∀ c ∈ '%' :: (sign ++ blanks ++ word ++ blanks' ++ sign' ++ ['%']), c ≠ '{' ∧ c ≠ '}' ∧ c ≠ '"' := by
    have hblank : ∀ c, Text.isBlank c = true → c ≠ '{' ∧ c ≠ '}' ∧ c ≠ '"' := by
      intro c hc
      refine ⟨?_, ?_, ?_⟩ <;> rintro rfl <;> exact absurd hc (by decide)
    have hsigns : ∀ sign ∈ [[], ['-'], ['+']], ∀ c ∈ sign, c ≠ '{' ∧ c ≠ '}' ∧ c ≠ '"' := by
      simp
    intro c hc
    simp only [List.mem_cons, List.mem_append, List.not_mem_nil, or_false] at hc
    rcases hc with rfl | ((((hc | hc) | hc) | hc) | hc) | rfl
    · decide
    · exact hsigns sign hsign c hc
    · exact hblank c (hblanks c (List.mem_append_left _ hc))
    · exact (hword.2 c hc).2.2
    · exact hblank c (hblanks c (List.mem_append_right _ hc))
    · exact hsigns sign' hsign' c hc
    · decide
  exact ⟨fun h => (hall _ h).1 rfl, fun h => (hall _ h).2.1 rfl, fun h => (hall _ h).2.2 rfl⟩

/-- A block that begins before an opening brace ends before it. -/
theorem HasWordBlock.before_brace (h : HasWordBlock form word (cs ++ '{' :: rest)) (hne : cs ≠ []) :
    HasWordBlock form word cs := by
  obtain ⟨block, hblock, hp⟩ := h
  obtain ⟨inner, rfl, hopen, -, -⟩ := hblock.not_mem hword
  obtain ⟨c, cs, rfl⟩ := List.exists_cons_of_ne_nil hne
  obtain ⟨rfl, hbehind⟩ := List.cons_prefix_cons.1 hp
  refine ⟨_, hblock, List.cons_prefix_cons.2 ⟨rfl, prefix_of_not_mem hbehind ?_⟩⟩
  simpa using hopen

/-- A block that begins before a closing brace ends with it at the latest. -/
theorem HasWordBlock.up_to_brace (h : HasWordBlock form word (cs ++ '}' :: rest)) :
    HasWordBlock form word (cs ++ ['}']) := by
  obtain ⟨block, hblock, hp⟩ := h
  obtain ⟨inner, rfl, -, hclose, -⟩ := hblock.not_mem hword
  have hbefore : '{' :: inner <+: cs := by
    refine prefix_of_not_mem ((List.prefix_append ..).trans hp) ?_
    simpa using hclose
  obtain ⟨more, rfl⟩ := hbefore
  refine ⟨_, hblock, ?_⟩
  rw [List.append_assoc] at hp ⊢
  rw [List.prefix_append_right_inj] at hp ⊢
  cases more with
  | nil => exact List.prefix_refl _
  | cons c more =>
    obtain ⟨rfl, -⟩ := List.cons_prefix_cons.1 hp
    exact List.cons_prefix_cons.2 ⟨rfl, List.nil_prefix⟩

omit hword in
/-- The closing of such a block has no line end. -/
theorem exists_cons_of_mem_signs {sign : List Char} (h : sign ∈ form.signs) :
    ∃ c more, sign ++ ['%', '}'] = c :: more ∧ c ≠ '\n' ∧ '\r' ∉ sign ++ ['%', '}'] ∧ '\n' ∉ sign ++ ['%', '}'] := by
  rcases Closing.mem_signs.1 h with rfl | rfl | ⟨-, rfl⟩ <;> exact ⟨_, _, rfl, by decide, by decide, by decide⟩

theorem IsWordBlock.unifyLineEnds (h : IsWordBlock form word block) : IsWordBlock form word (unifyLineEnds block) := by
  obtain ⟨sign, hsign, blanks, blanks', hblanks, sign', hsign', rfl⟩ := h
  obtain ⟨c, more, hletters, hc⟩ := hword.exists_cons
  obtain ⟨d, behind, hclosing, hd, hplain, -⟩ := exists_cons_of_mem_signs hsign'
  refine ⟨sign, hsign, Text.unifyLineEnds blanks, Text.unifyLineEnds blanks', ?_, sign', hsign', ?_⟩
  · intro e he
    rcases List.mem_append.1 he with he | he
    · exact forall_isBlank_unifyLineEnds.2 (fun f hf => hblanks f (List.mem_append_left _ hf)) e he
    · exact forall_isBlank_unifyLineEnds.2 (fun f hf => hblanks f (List.mem_append_right _ hf)) e he
  · have hstart : '\r' ∉ ['{', '%'] ++ sign := by rcases sign_cases hsign with rfl | rfl | rfl <;> decide
    have hreturn : '\r' ∉ word := hword.not_mem (by decide)
    have hfeed : c ≠ '\n' := fun heq =>
      hword.not_mem (c := '\n') (by decide) (by rw [hletters, heq]; exact List.mem_cons_self ..)
    have hmiddle : Text.unifyLineEnds (blanks ++ (word ++ (blanks' ++ (sign' ++ ['%', '}'])))) =
        Text.unifyLineEnds blanks ++ (word ++ (Text.unifyLineEnds blanks' ++ (sign' ++ ['%', '}']))) := by
      conv => lhs; rw [hletters, List.cons_append, unifyLineEnds_append hfeed, ← List.cons_append, ← hletters]
      rw [unifyLineEnds_append_left hreturn, hclosing, unifyLineEnds_append hd, ← hclosing, unifyLineEnds_eq hplain]
    have hall := unifyLineEnds_append_left hstart (blanks ++ (word ++ (blanks' ++ (sign' ++ ['%', '}']))))
    rw [hmiddle] at hall
    simpa using hall

/-- Such a block comes from one. -/
theorem HasWordBlock.of_unifyLineEnds (h : HasWordBlock form word (unifyLineEnds cs)) : HasWordBlock form word cs := by
  obtain ⟨block, ⟨sign, hsign, blanks, blanks', hblanks, sign', hsign', rfl⟩, tail, htail⟩ := h
  obtain ⟨_, _, _, _, -, hclosing⟩ := exists_cons_of_mem_signs hsign'
  have hstart : '\n' ∉ ['{', '%'] ++ sign := by rcases sign_cases hsign with rfl | rfl | rfl <;> decide
  have hfeed : '\n' ∉ word := hword.not_mem (by decide)
  have hsplit : Text.unifyLineEnds cs =
      (['{', '%'] ++ sign) ++ (blanks ++ (word ++ (blanks' ++ ((sign' ++ ['%', '}']) ++ tail)))) := by
    rw [← htail]
    simp
  obtain ⟨rest₁, rfl, h₁⟩ := exists_of_unifyLineEnds_plain hsplit hstart
  obtain ⟨before, rest₂, rfl, hbefore, h₂⟩ :=
    exists_of_unifyLineEnds_blanks h₁ fun c hc => hblanks c (List.mem_append_left _ hc)
  obtain ⟨rest₃, rfl, h₃⟩ := exists_of_unifyLineEnds_plain h₂ hfeed
  obtain ⟨behind, rest₄, rfl, hbehind, h₄⟩ :=
    exists_of_unifyLineEnds_blanks h₃ fun c hc => hblanks c (List.mem_append_right _ hc)
  obtain ⟨rest₅, rfl, -⟩ := exists_of_unifyLineEnds_plain h₄ hclosing
  refine ⟨_, ⟨sign, hsign, before, behind, fun c hc => ?_, sign', hsign', rfl⟩, rest₅, by simp⟩
  exact (List.mem_append.1 hc).elim (hbefore c) (hbehind c)

end

section
variable (ho : o.delimiters = .standard) {form : Closing} {word : String} {sign taken : List Char}
include ho

theorem isWordBlock_of_wordTag? (h : wordTag? o form word cs = some (sign, taken, rest)) :
    ∃ block eaten, IsWordBlock form word.toList block ∧ taken = block ++ eaten ∧ cs = taken ++ rest ∧
      ∀ c ∈ eaten, Text.isBlank c = true := by
  rw [wordTag?_eq ho] at h
  simp only [Option.bind_eq_bind, Option.bind_eq_some_iff, Prod.exists, Option.some.injEq, Prod.mk.injEq] at h
  obtain ⟨start, behind, hstart, w, behind', hword, close, _, hclose, rfl, rfl, rfl⟩ := h
  obtain ⟨rfl, rfl⟩ := mark?_eq hstart
  obtain ⟨rfl, hbehind⟩ := mark?_eq hword
  obtain ⟨sign', hsign', eaten, rfl, hend, heaten⟩ := @closeMark?_eq_some _ _ _ _ '%' ['}'] hclose
  obtain ⟨hsplit, hsign⟩ := cutSign_eq behind
  have hblanks := List.takeWhile_append_dropWhile (p := Text.isBlank) (l := (cutSign behind).2)
  have hblanks' := List.takeWhile_append_dropWhile (p := Text.isBlank) (l := behind')
  refine ⟨['{', '%'] ++ (cutSign behind).1 ++ (cutSign behind).2.takeWhile Text.isBlank ++ word.toList ++
    behind'.takeWhile Text.isBlank ++ sign' ++ ['%', '}'], eaten, ?_, ?_, ?_, heaten⟩
  · refine ⟨_, hsign, _, _, fun c hc => ?_, sign', hsign', rfl⟩
    exact (List.mem_append.1 hc).elim List.mem_takeWhile_imp List.mem_takeWhile_imp
  · simp [Delimiters.standard]
  · conv => lhs; rw [hsplit, ← hblanks, hbehind, ← hblanks', hend]
    simp

omit ho in
/-- A sign is cut off before what begins with none. -/
theorem cutSign_append (hsign : sign ∈ [[], ['-'], ['+']]) (hcs : ∀ c, cs.head? = some c → isSign c = false) :
    cutSign (sign ++ cs) = (sign, cs) := by
  rcases sign_cases hsign with rfl | rfl | rfl
  · cases cs with
    | nil => rfl
    | cons c cs => simp [cutSign, hcs c rfl]
  · rfl
  · rfl

omit ho in
theorem not_isSign_of_isBlank {c : Char} (h : Text.isBlank c = true) : isSign c = false := by
  rw [Bool.eq_false_iff]
  intro hsign
  rcases isSign_cases hsign with rfl | rfl <;> exact absurd h (by decide)

omit ho in
theorem not_isWordChar_of_isBlank {c : Char} (h : Text.isBlank c = true) : Text.isWordChar c = false := by
  let codes : List Nat := [9, 10, 11, 12, 13, 28, 29, 30, 31, 32, 0x85, 0xa0, 0x1680, 0x2000, 0x2001, 0x2002, 0x2003,
    0x2004, 0x2005, 0x2006, 0x2007, 0x2008, 0x2009, 0x200a, 0x2028, 0x2029, 0x202f, 0x205f, 0x3000]
  have hcode : c.toNat ∈ codes := by
    simp only [Text.isBlank, Bool.or_eq_true, Bool.and_eq_true, decide_eq_true_eq, beq_iff_eq] at h
    simp only [codes, List.mem_cons, List.not_mem_nil, or_false]
    omega
  have hall : codes.all (fun n => !Text.isWordChar (Char.ofNat n)) = true := by decide +kernel
  have hc := List.all_eq_true.1 hall _ hcode
  rw [Char.ofNat_toNat] at hc
  simpa using hc

/-- Such a block is found where it stands, if its word begins like one. -/
theorem wordTag?_append (hword : IsLettered word.toList) {block : List Char}
    (hblock : IsWordBlock form word.toList block) (tail : List Char) :
    ∃ sign eaten after, wordTag? o form word (block ++ tail) = some (sign, block ++ eaten, after) ∧
      tail = eaten ++ after ∧ ∀ c ∈ eaten, Text.isBlank c = true := by
  obtain ⟨sign, hsign, blanks, blanks', hblanks, sign', hsign', rfl⟩ := hblock
  obtain ⟨first, letters, hletters, hfirst, hink, -⟩ := hword.exists_cons
  obtain ⟨eaten, after, hclose, htail, heaten⟩ := @closeMark?_append _ '%' ['}'] (by decide) _ hsign' tail
  refine ⟨sign, eaten, after, ?_, htail, heaten⟩
  have htext : ['{', '%'] ++ sign ++ blanks ++ word.toList ++ blanks' ++ sign' ++ ['%', '}'] ++ tail =
      Delimiters.standard.blockStart ++
        (sign ++ (blanks ++ (word.toList ++ (blanks' ++ (sign' ++ ['%', '}'] ++ tail))))) := by
    simp [Delimiters.standard]
  have hend : ∀ c, (sign' ++ ['%', '}'] ++ tail).head? = some c → Text.isBlank c = false := fun c hc => by
    rcases Closing.mem_signs.1 hsign' with rfl | rfl | ⟨-, rfl⟩ <;> obtain rfl := Option.some.inj hc <;> decide
  rw [htext]
  generalize sign' ++ ['%', '}'] ++ tail = closing at hclose hend
  -- What stands behind the sign, and behind the word.
  have hcut : cutSign (sign ++ (blanks ++ (word.toList ++ (blanks' ++ closing)))) =
      (sign, blanks ++ (word.toList ++ (blanks' ++ closing))) := by
    refine cutSign_append hsign fun c hc => ?_
    cases blanks with
    | nil =>
      rw [List.nil_append, hletters] at hc
      exact Option.some.inj hc ▸ hfirst
    | cons d blanks =>
      obtain rfl : d = c := Option.some.inj hc
      exact not_isSign_of_isBlank (hblanks d (List.mem_cons_self ..))
  obtain ⟨htake, hdrop⟩ := Directive.span_run (word.toList ++ (blanks' ++ closing))
    (fun c hc => hblanks c (List.mem_append_left _ hc)) (fun c hc => by
      rw [hletters] at hc
      exact Option.some.inj hc ▸ hink)
  obtain ⟨htake', hdrop'⟩ := Directive.span_run closing (fun c hc => hblanks c (List.mem_append_right _ hc)) hend
  rw [wordTag?_eq ho, mark?_append]
  simp only [Option.bind_eq_bind, Option.bind_some, hcut, htake, hdrop, mark?_append, htake', hdrop']
  show Option.bind (closeMark? form ['%', '}'] _) _ = _
  rw [hclose]
  simp [Delimiters.standard]

theorem wordTag?_eq_none_iff (hword : IsLettered word.toList) :
    wordTag? o form word cs = none ↔ ¬ HasWordBlock form word.toList cs := by
  constructor
  · rintro h ⟨block, hblock, tail, rfl⟩
    obtain ⟨sign, eaten, after, hsome, -⟩ := wordTag?_append ho hword hblock tail
    rw [h] at hsome
    cases hsome
  · intro h
    cases hsome : wordTag? o form word cs with
    | none => rfl
    | some found =>
      obtain ⟨sign, taken, rest⟩ := found
      obtain ⟨block, eaten, hblock, rfl, rfl, -⟩ := isWordBlock_of_wordTag? ho hsome
      rw [List.append_assoc] at h
      exact absurd ⟨block, hblock, List.prefix_append ..⟩ h

end

/-! ### Openings -/

/-- An expression, a block or a comment begins here. -/
def Opens (cs : List Char) : Prop := ∃ c ∈ ['{', '%', '#'], ['{', c] <+: cs

/-- The mark of what opens. -/
def Opening.mark : Opening → List Char
  | .variable_ => Delimiters.standard.variableStart
  | .comment => Delimiters.standard.commentStart
  | _ => Delimiters.standard.blockStart

@[simp] theorem Opening.length_mark (opening : Opening) : opening.mark.length = 2 := by
  cases opening <;> rfl

theorem opens_mark (opening : Opening) (v : List Char) : Opens (opening.mark ++ v) := by
  cases opening
  · exact ⟨'%', by decide, List.prefix_append ..⟩
  · exact ⟨'%', by decide, List.prefix_append ..⟩
  · exact ⟨'{', by decide, List.prefix_append ..⟩
  · exact ⟨'#', by decide, List.prefix_append ..⟩

theorem Opens.append (h : Opens cs) (tail : List Char) : Opens (cs ++ tail) := by
  obtain ⟨c, hc, hp⟩ := h
  exact ⟨c, hc, hp.trans (List.prefix_append ..)⟩

theorem HasWordBlock.opens {form : Closing} {word : List Char} (h : HasWordBlock form word cs) : Opens cs := by
  obtain ⟨_, ⟨sign, -, blanks, blanks', -, sign', -, rfl⟩, tail, rfl⟩ := h
  simp only [List.append_assoc]
  exact opens_mark .block _

section
variable {opening : Opening} {sign taken : List Char}

theorem opening?_raw (h : wordTag? o ⟨false, false⟩ "raw" cs = some (sign, taken, rest)) :
    opening? o cs = some (.raw, sign, taken, rest) := by
  unfold opening?
  rw [h]

variable (ho : o.delimiters = .standard)
include ho

/-- Where no raw region opens, the marks are tried. -/
theorem opening?_of_not_raw (h : ¬ HasWordBlock ⟨false, false⟩ "raw".toList cs) :
    opening? o cs = [Opening.variable_, .comment, .block].findSome? fun opening =>
      (openMark? opening.mark cs).map fun (taken, sign, rest) => (opening, sign, taken, rest) := by
  unfold opening?
  rw [(wordTag?_eq_none_iff ho isLettered_raw).2 h, ho]
  rfl

/-- What is opened by a mark, unless a raw region is. -/
theorem opening?_mark (hraw : opening ≠ .raw) {v : List Char}
    (h : ¬ HasWordBlock ⟨false, false⟩ "raw".toList (opening.mark ++ v)) :
    opening? o (opening.mark ++ v) =
      some (opening, (cutSign v).1, opening.mark ++ (cutSign v).1, (cutSign v).2) := by
  rw [opening?_of_not_raw ho h]
  cases opening
  · exact absurd rfl hraw
  · rfl
  · rfl
  · rfl

theorem opening?_cases (h : opening? o cs = some (opening, sign, taken, rest)) :
    (opening = .raw ∧ wordTag? o ⟨false, false⟩ "raw" cs = some (sign, taken, rest)) ∨
      (opening ≠ .raw ∧ ¬ HasWordBlock ⟨false, false⟩ "raw".toList cs ∧
        ∃ v, cs = opening.mark ++ v ∧ taken = opening.mark ++ (cutSign v).1 ∧ rest = (cutSign v).2) := by
  cases htag : wordTag? o ⟨false, false⟩ "raw" cs with
  | some found =>
    rw [opening?_raw htag] at h
    obtain ⟨rfl, hfound⟩ := Prod.mk.inj (Option.some.inj h)
    exact .inl ⟨rfl, congrArg some hfound⟩
  | none =>
    have hraw := (wordTag?_eq_none_iff ho isLettered_raw).1 htag
    rw [opening?_of_not_raw ho hraw] at h
    obtain ⟨kind, hkind, h⟩ := List.exists_of_findSome?_eq_some h
    simp only [openMark?, Option.bind_eq_bind, Option.map_eq_some_iff, Option.bind_eq_some_iff, Prod.exists,
      Option.some.injEq, Prod.mk.injEq] at h
    obtain ⟨_, _, _, ⟨start, v, hstart, rfl, rfl, rfl⟩, rfl, rfl, rfl, rfl⟩ := h
    obtain ⟨rfl, rfl⟩ := mark?_eq hstart
    refine .inr ⟨?_, hraw, v, rfl, rfl, rfl⟩
    rintro rfl
    exact absurd hkind (by decide)

theorem opening?_eq_none_iff : opening? o cs = none ↔ ¬ Opens cs := by
  constructor
  · rintro h ⟨c, hc, v, rfl⟩
    obtain ⟨kind, hkind, hmark⟩ : ∃ kind : Opening, kind ≠ .raw ∧ ['{', c] = kind.mark := by
      simp only [List.mem_cons, List.not_mem_nil, or_false] at hc
      rcases hc with rfl | rfl | rfl
      · exact ⟨.variable_, by decide, rfl⟩
      · exact ⟨.block, by decide, rfl⟩
      · exact ⟨.comment, by decide, rfl⟩
    rw [hmark] at h
    have hraw : ¬ HasWordBlock ⟨false, false⟩ "raw".toList (kind.mark ++ v) := by
      intro hraw
      obtain ⟨⟨sign, taken, rest⟩, hsome⟩ :=
        Option.ne_none_iff_exists'.1 fun hnone => (wordTag?_eq_none_iff ho isLettered_raw).1 hnone hraw
      rw [opening?_raw hsome] at h
      cases h
    rw [opening?_mark ho hkind hraw] at h
    cases h
  · intro h
    cases hsome : opening? o cs with
    | none => rfl
    | some found =>
      obtain ⟨opening, sign, taken, rest⟩ := found
      rcases opening?_cases ho hsome with ⟨-, htag⟩ | ⟨-, -, v, rfl, -⟩
      · obtain ⟨block, eaten, hblock, rfl, rfl, -⟩ := isWordBlock_of_wordTag? ho htag
        rw [List.append_assoc] at h
        exact absurd (HasWordBlock.opens ⟨block, hblock, List.prefix_append ..⟩) h
      · exact absurd (opens_mark ..) h

end

/-! ### Data -/

/-- Nothing opens in a text when another stands behind it. -/
def Calm (after cs : List Char) : Prop := ∀ s, s <:+ cs → s ≠ [] → ¬ Opens (s ++ after)

theorem opens_cons {c : Char} : Opens (c :: cs) ↔ c = '{' ∧ ∃ d ∈ ['{', '%', '#'], cs.head? = some d := by
  constructor
  · rintro ⟨d, hd, v, hv⟩
    obtain ⟨rfl, rfl⟩ := List.cons.inj hv
    exact ⟨rfl, d, hd, rfl⟩
  · rintro ⟨rfl, d, hd, hhead⟩
    obtain ⟨more, rfl⟩ := List.head?_eq_some_iff.1 hhead
    exact ⟨d, hd, more, rfl⟩

theorem head?_unifyLineEnds (cs : List Char) :
    (unifyLineEnds cs).head? = cs.head?.map fun c => if c = '\r' then '\n' else c := by
  fun_induction unifyLineEnds cs with
  | case1 => rfl
  | case2 cs ih => rfl
  | case3 c cs hc ih => rfl

section
variable {after : List Char}

theorem calm_cons {c : Char} : Calm after (c :: cs) ↔ ¬ Opens (c :: (cs ++ after)) ∧ Calm after cs := by
  constructor
  · intro h
    exact ⟨h (c :: cs) (List.suffix_refl _) (by simp), fun s hs => h s (hs.trans (List.suffix_cons ..))⟩
  · rintro ⟨hhere, h⟩ s hs hne
    rcases List.suffix_cons_iff.1 hs with rfl | hs
    · exact hhere
    · exact h s hs hne

theorem Calm.suffix {s : List Char} (h : Calm after cs) (hs : s <:+ cs) : Calm after s :=
  fun s' hs' hne => h s' (hs'.trans hs) hne

/-- Nothing opens in blanks. -/
theorem Calm.blanks {blanks : List Char} (h : Calm after cs) (hblanks : ∀ c ∈ blanks, Text.isBlank c = true) :
    Calm after (blanks ++ cs) := by
  induction blanks with
  | nil => exact h
  | cons c blanks ih =>
    have hc := hblanks c (List.mem_cons_self ..)
    refine calm_cons.2 ⟨fun hopens => ?_, ih fun d hd => hblanks d (List.mem_cons_of_mem _ hd)⟩
    obtain ⟨rfl, -⟩ := opens_cons.1 hopens
    exact absurd hc (by decide)

theorem Calm.unifyLineEnds (h : Calm after cs) : Calm after (unifyLineEnds cs) := by
  have hfeed {cs : List Char} (h : Calm after cs) : Calm after ('\n' :: cs) := by
    refine calm_cons.2 ⟨fun hopens => ?_, h⟩
    exact absurd (opens_cons.1 hopens).1 (by decide)
  fun_induction Text.unifyLineEnds cs with
  | case1 => exact h
  | case2 cs ih => exact hfeed (ih (h.suffix ((List.suffix_cons ..).trans (List.suffix_cons ..))))
  | case3 c cs hc ih =>
    obtain ⟨hhere, hrest⟩ := calm_cons.1 h
    split
    · exact hfeed (ih hrest)
    · refine calm_cons.2 ⟨fun hopens => hhere (opens_cons.2 ?_), ih hrest⟩
      obtain ⟨rfl, d, hd, hhead⟩ := opens_cons.1 hopens
      refine ⟨rfl, d, hd, ?_⟩
      rw [List.head?_append, head?_unifyLineEnds] at hhead
      rw [List.head?_append]
      cases hfirst : cs.head? with
      | none =>
        rw [hfirst] at hhead
        exact hhead
      | some e =>
        rw [hfirst] at hhead
        obtain rfl : (if e = '\r' then '\n' else e) = d := Option.some.inj hhead
        split at hd
        · exact absurd hd (by decide)
        · next he => rw [if_neg he]; rfl

end

/-! ### Insides -/

theorem unifyLineEnds_backslash (cs : List Char) :
    unifyLineEnds ('\\' :: cs) = '\\' :: unifyLineEnds cs := unifyLineEnds_cons (by decide) cs

/-- A literal ends with its mark. -/
theorem IsLiteral.exists_concat {mark : Char} {lit body : List Char} (h : IsLiteral mark lit body) :
    ∃ before, lit = before ++ [mark] := by
  induction h with
  | close => exact ⟨[], rfl⟩
  | @escape c _ _ _ ih =>
    obtain ⟨before, rfl⟩ := ih
    exact ⟨'\\' :: c :: before, rfl⟩
  | @char c _ _ _ _ _ ih =>
    obtain ⟨before, rfl⟩ := ih
    exact ⟨c :: before, rfl⟩

/-- Behind a character of its own a literal goes on as one. -/
theorem IsLiteral.tail {mark c : Char} {lit body : List Char} (h : IsLiteral mark (c :: lit) body) (hc : c ≠ '\\')
    (hne : c ≠ mark) : ∃ body', IsLiteral mark lit body' := by
  generalize hwhole : c :: lit = whole at h
  cases h with
  | close => exact absurd (List.cons.inj hwhole).1 hne
  | escape _ => exact absurd (List.cons.inj hwhole).1 hc
  | char _ _ hlit =>
    obtain ⟨-, rfl⟩ := List.cons.inj hwhole
    exact ⟨_, hlit⟩

/-- A literal is one still when its line ends are unified. -/
theorem IsLiteral.unifyLineEnds {mark : Char} {lit body : List Char} (hmark : IsQuote mark)
    (h : IsLiteral mark lit body) : ∃ body', IsLiteral mark (unifyLineEnds lit) body' := by
  have hreturn : mark ≠ '\r' ∧ mark ≠ '\n' := by rcases hmark with rfl | rfl <;> decide
  induction h with
  | close =>
    rw [unifyLineEnds_cons hreturn.1]
    exact ⟨_, .close⟩
  | @escape c lit _ _ ih =>
    obtain ⟨body', hlit⟩ := ih
    rw [unifyLineEnds_backslash]
    rcases unifyLineEnds_step c lit with ⟨rfl, more, rfl, hstep⟩ | ⟨c', -, hstep⟩ <;> rw [hstep]
    · -- The line feed that stays is the one that is escaped now.
      rw [unifyLineEnds_cons (c := '\n') (by decide)] at hlit ⊢
      obtain ⟨_, hmore⟩ := hlit.tail (by decide) hreturn.2.symm
      exact ⟨_, .escape hmore⟩
    · exact ⟨_, .escape hlit⟩
  | @char c lit _ hc hne _ ih =>
    obtain ⟨body', hlit⟩ := ih
    rcases unifyLineEnds_step c lit with ⟨rfl, more, rfl, hstep⟩ | ⟨c', rfl | ⟨-, rfl⟩, hstep⟩ <;> rw [hstep]
    · exact ⟨body', hlit⟩
    · exact ⟨_, .char hc hne hlit⟩
    · exact ⟨_, .char (by decide) hreturn.2.symm hlit⟩

theorem ClosesAt.of_unifyLineEnds {mode : Mode} (h : ClosesAt mode (unifyLineEnds cs)) : ClosesAt mode cs := by
  obtain ⟨sign, hsign, tail, htail⟩ := h
  obtain ⟨rest, rfl, -⟩ := exists_of_unifyLineEnds_plain htail.symm (by
    rcases Mode.sign_cases hsign with rfl | rfl | rfl <;> rcases mode.endMark_cases with hmark | hmark <;>
      rw [hmark] <;> decide)
  exact ⟨sign, hsign, rest, rfl⟩

/-- An inside is one still when its line ends are unified. -/
theorem Inside.unifyLineEnds {mode : Mode} {brackets w : List Char} (h : Inside mode brackets w) :
    Inside mode brackets (unifyLineEnds w) := by
  induction h with
  | @closing sign hsign =>
    rw [unifyLineEnds_eq]
    · exact .closing hsign
    · rcases Mode.sign_cases hsign with rfl | rfl | rfl <;> rcases mode.endMark_cases with hmark | hmark <;>
        rw [hmark] <;> decide
  | @literal brackets mark lit body w hmark hlit _ ih =>
    have hliteral := (isLiteral_iff hmark).2 hlit
    obtain ⟨body', hlit'⟩ := hliteral.unifyLineEnds hmark
    have hreturn : mark ≠ '\r' ∧ mark ≠ '\n' := by rcases hmark with rfl | rfl <;> decide
    rw [List.cons_append, unifyLineEnds_cons hreturn.1,
      unifyLineEnds_behind hreturn.1 hreturn.2 hliteral.exists_concat]
    exact .literal hmark ((isLiteral_iff hmark).1 hlit') ih
  | @char brackets brackets' c w hquote hcloses hbrackets h ih =>
    rcases unifyLineEnds_step c w with ⟨rfl, more, rfl, hstep⟩ | ⟨c', hc', hstep⟩
    · rw [hstep]
      obtain rfl : brackets = brackets' := Except.ok.inj hbrackets
      exact ih
    · rw [hstep]
      rcases hc' with rfl | ⟨rfl, rfl⟩
      · refine .char hquote (fun hnil hat => hcloses hnil ?_) hbrackets ih
        rw [← hstep] at hat
        exact hat.of_unifyLineEnds
      · obtain rfl : brackets = brackets' := Except.ok.inj hbrackets
        exact ih.smooth (.char (c := '\n') (by decide) .nil)

theorem Inside.endMark_suffix {mode : Mode} {brackets w : List Char} (h : Inside mode brackets w) :
    mode.endMark <:+ w := by
  induction h with
  | closing _ => exact List.suffix_append ..
  | literal _ _ _ ih => exact ih.trans (List.suffix_append ..)
  | char _ _ _ _ ih => exact ih.trans (List.suffix_cons ..)

/-! ### Pieces in a text -/

/-- A block with a certain name begins a text; the name ends there. -/
def BeginsBlock (name cs : List Char) : Prop :=
  ∃ sign ∈ [[], ['-'], ['+']], ∃ blanks d more, (∀ c ∈ blanks, Text.isBlank c = true) ∧ Text.isWordChar d = false ∧
    cs = ['{', '%'] ++ sign ++ blanks ++ name ++ d :: more

/-- What a tag that opens is for the lexer. -/
def Opening.mode : Opening → Mode
  | .variable_ => .variable_
  | _ => .block

theorem Opening.mode_ne_data (opening : Opening) (startsLine : Bool) : opening.mode ≠ .data startsLine := by
  cases opening <;> simp [Opening.mode]

/-- What a piece is in a text that the lexer reads, from its opening to its closing mark. -/
inductive Piece.Lies (o : Options) (names : List (List Char)) : Piece → List Char → Prop where
  | raw {cs block inner block' : List Char} : IsWordBlock ⟨false, false⟩ "raw".toList block →
    IsWordBlock o.closing "endraw".toList block' →
    (∀ s, s <:+ inner → s ≠ [] → ¬ HasWordBlock o.closing "endraw".toList s) →
    Lies o names (.kept cs) (block ++ inner ++ block')
  | comment {cs inner : List Char} :
    (∀ s, s <:+ inner → s ≠ [] → ¬ ['#', '}'] <+: s ++ ['#', '}']) →
    Lies o names (.kept cs) (['{', '#'] ++ inner ++ ['#', '}'])
  | directive {t : TagText} : t.IsTag .standard names → IsWord t.name → Lies o names (.directive t) t.rewritten
  | tag {opening : Opening} {cs v : List Char} : opening = .block ∨ opening = .variable_ →
    ¬ HasWordBlock ⟨false, false⟩ "raw".toList (opening.mark ++ v) → Inside opening.mode [] (cutSign v).2 →
    (∀ name, IsRun name → (BeginsBlock name (opening.mark ++ v) ↔ BeginsBlock name cs)) →
    Lies o names (.ordinary cs) (opening.mark ++ v)

/-- Pieces lie in a text one behind the other: data in which nothing opens, and between them what begins and ends
with a brace. -/
inductive Laid (o : Options) (names : List (List Char)) : List Piece → List Char → Prop where
  | data {cs d : List Char} : Calm [] d → Laid o names [.data cs] d
  | next {cs d body rest : List Char} {piece : Piece} {pieces : List Piece} : Calm ['{'] d → piece.Lies o names body →
    Laid o names pieces rest → Laid o names (.data cs :: piece :: pieces) (d ++ body ++ rest)

section
variable {piece : Piece} {body : List Char}

/-- A sign before a text is cut off, whatever stands behind the text. -/
theorem cutSign_append_right {v : List Char} (h : v ≠ []) (tail : List Char) :
    cutSign (v ++ tail) = ((cutSign v).1, (cutSign v).2 ++ tail) := by
  cases v with
  | nil => exact absurd rfl h
  | cons c v =>
    unfold cutSign
    simp only [List.cons_append]
    split <;> rfl

theorem cutSign_unifyLineEnds (v : List Char) :
    cutSign (unifyLineEnds v) = ((cutSign v).1, unifyLineEnds (cutSign v).2) := by
  have hnone {cs : List Char} (h : ∀ c, cs.head? = some c → isSign c = false) : cutSign cs = ([], cs) :=
    @cutSign_append _ [] (by simp) h
  cases v with
  | nil => rfl
  | cons c v =>
    by_cases hc : isSign c = true
    · have hreturn : c ≠ '\r' := by rintro rfl; cases hc
      rw [unifyLineEnds_cons hreturn]
      simp only [cutSign, if_pos hc]
    · have hv : cutSign (c :: v) = ([], c :: v) := by simp only [cutSign, if_neg hc]
      rw [hv]
      refine hnone fun d hd => ?_
      rw [head?_unifyLineEnds] at hd
      obtain rfl : (if c = '\r' then '\n' else c) = d := Option.some.inj hd
      split
      · decide
      · exact Bool.eq_false_iff.2 hc

theorem IsRun.not_mem {name : List Char} {c : Char} (h : IsRun name) (hc : Text.isWordChar c = false) : c ∉ name := by
  intro hmem
  rw [h.chars c hmem] at hc
  cases hc

/-- A sign is cut off before a name with blanks before it. -/
theorem cutSign_word {sign blanks name : List Char} (hname : IsRun name) (hsign : sign ∈ [[], ['-'], ['+']])
    (hblanks : ∀ c ∈ blanks, Text.isBlank c = true) (more : List Char) :
    cutSign (sign ++ (blanks ++ name ++ more)) = (sign, blanks ++ name ++ more) := by
  refine cutSign_append hsign fun c hc => ?_
  cases blanks with
  | nil =>
    obtain ⟨first, letters, rfl⟩ := List.exists_cons_of_ne_nil hname.ne_nil
    obtain rfl : first = c := Option.some.inj hc
    rw [Bool.eq_false_iff]
    intro hfirst
    have hchar := hname.chars first (List.mem_cons_self ..)
    rcases isSign_cases hfirst with rfl | rfl <;> exact absurd hchar (by decide)
  | cons d blanks =>
    obtain rfl : d = c := Option.some.inj hc
    exact not_isSign_of_isBlank (hblanks d (List.mem_cons_self ..))

/-- A block begins with one name. -/
theorem BeginsBlock.unique {name other : List Char} (hname : IsRun name) (hother : IsRun other)
    (h : BeginsBlock name cs) (h' : BeginsBlock other cs) : name = other := by
  have hfirst {name more : List Char} (hname : IsRun name) :
      ∀ c, (name ++ more).head? = some c → Text.isBlank c = false := by
    obtain ⟨first, letters, rfl⟩ := List.exists_cons_of_ne_nil hname.ne_nil
    rintro c ⟨⟩
    refine Bool.eq_false_iff.2 fun hblank => ?_
    have hword := hname.chars first (List.mem_cons_self ..)
    rw [not_isWordChar_of_isBlank hblank] at hword
    cases hword
  have hlast {d : Char} {more : List Char} (hd : Text.isWordChar d = false) :
      ∀ c, (d :: more).head? = some c → Text.isWordChar c = false := fun c hc => Option.some.inj hc ▸ hd
  obtain ⟨sign, hsign, blanks, d, more, hblanks, hd, rfl⟩ := h
  obtain ⟨sign', hsign', blanks', d', more', hblanks', hd', hcs⟩ := h'
  have htext : sign ++ (blanks ++ name ++ d :: more) = sign' ++ (blanks' ++ other ++ d' :: more') := by
    simpa using hcs
  -- What stands behind the sign is the same, and so what stands behind the blanks, and the word there.
  have hcut := cutSign_word hname hsign hblanks (d :: more)
  rw [htext, cutSign_word hother hsign' hblanks' (d' :: more')] at hcut
  have hbehind : blanks' ++ (other ++ d' :: more') = blanks ++ (name ++ d :: more) := by
    simpa using (Prod.mk.inj hcut).2
  have hword : other ++ d' :: more' = name ++ d :: more := by
    rw [← (Directive.span_run _ hblanks' (hfirst hother)).2, hbehind, (Directive.span_run _ hblanks (hfirst hname)).2]
  rw [← (Directive.span_run _ hname.chars (hlast hd)).1, ← hword, (Directive.span_run _ hother.chars (hlast hd')).1]

theorem BeginsBlock.of_unifyLineEnds {name : List Char} (hname : IsRun name)
    (h : BeginsBlock name (unifyLineEnds cs)) : BeginsBlock name cs := by
  obtain ⟨sign, hsign, blanks, d, more, hblanks, hd, hcs⟩ := h
  have hstart : '\n' ∉ ['{', '%'] ++ sign := by rcases sign_cases hsign with rfl | rfl | rfl <;> decide
  simp only [List.append_assoc] at hcs hstart
  rw [← List.append_assoc] at hcs
  obtain ⟨rest₁, rfl, h₁⟩ := exists_of_unifyLineEnds_plain hcs hstart
  obtain ⟨before, rest₂, rfl, hbefore, h₂⟩ := exists_of_unifyLineEnds_blanks h₁ hblanks
  obtain ⟨rest₃, rfl, h₃⟩ := exists_of_unifyLineEnds_plain h₂ (hname.not_mem (by decide))
  -- Behind the name there stood the same character, or a line end.
  have hhead := head?_unifyLineEnds rest₃
  rw [h₃] at hhead
  cases rest₃ with
  | nil => cases hhead
  | cons e behind =>
    obtain rfl : d = if e = '\r' then '\n' else e := Option.some.inj hhead
    refine ⟨sign, hsign, before, e, behind, hbefore, ?_, by simp⟩
    split at hd
    · next he => exact he ▸ by decide
    · exact hd

theorem BeginsBlock.unifyLineEnds {name : List Char} (hname : IsRun name) (h : BeginsBlock name cs) :
    BeginsBlock name (unifyLineEnds cs) := by
  obtain ⟨sign, hsign, blanks, d, more, hblanks, hd, rfl⟩ := h
  have hstart : '\r' ∉ ['{', '%'] ++ sign := by rcases sign_cases hsign with rfl | rfl | rfl <;> decide
  obtain ⟨c, letters, hletters⟩ := List.exists_cons_of_ne_nil hname.ne_nil
  have hfeed : c ≠ '\n' := by
    rintro rfl
    exact hname.not_mem (c := '\n') (by decide) (hletters ▸ List.mem_cons_self ..)
  have hmiddle : Text.unifyLineEnds (blanks ++ (name ++ d :: more)) =
      Text.unifyLineEnds blanks ++ (name ++ Text.unifyLineEnds (d :: more)) := by
    conv => lhs; rw [hletters, List.cons_append, unifyLineEnds_append hfeed, ← List.cons_append, ← hletters]
    rw [unifyLineEnds_append_left (hname.not_mem (by decide))]
  have hall := unifyLineEnds_append_left hstart (blanks ++ (name ++ d :: more))
  -- Behind the name there stands the same character, or a line end.
  obtain ⟨e, behind, hbehind, he⟩ : ∃ e behind, Text.unifyLineEnds (d :: more) = e :: behind ∧
      Text.isWordChar e = false := by
    obtain ⟨behind, hbehind⟩ := List.head?_eq_some_iff.1 (head?_unifyLineEnds (d :: more))
    refine ⟨_, behind, hbehind, ?_⟩
    show Text.isWordChar (if d = '\r' then '\n' else d) = false
    split
    · decide
    · exact hd
  refine ⟨sign, hsign, Text.unifyLineEnds blanks, e, behind, forall_isBlank_unifyLineEnds.2 hblanks, he, ?_⟩
  rw [hmiddle, hbehind] at hall
  simpa using hall

/-- The name of a block that begins before a closing brace ends there at the latest. -/
theorem BeginsBlock.up_to_brace {name tail : List Char} (hname : IsRun name)
    (h : BeginsBlock name (cs ++ '}' :: tail)) : BeginsBlock name (cs ++ ['}']) := by
  obtain ⟨sign, hsign, blanks, d, more, hblanks, hd, hcs⟩ := h
  have hbrace : '}' ∉ ['{', '%'] ++ sign ++ blanks ++ name := by
    have hsigns : '}' ∉ ['{', '%'] ++ sign := by rcases sign_cases hsign with rfl | rfl | rfl <;> decide
    have hblank : '}' ∉ blanks := fun hmem => absurd (hblanks _ hmem) (by decide)
    have hword : '}' ∉ name := hname.not_mem (by decide)
    rw [List.mem_append, List.mem_append, not_or, not_or]
    exact ⟨⟨hsigns, hblank⟩, hword⟩
  obtain ⟨rest, rfl⟩ := prefix_of_not_mem ⟨d :: more, hcs.symm⟩ hbrace
  rw [List.append_assoc _ rest] at hcs
  have hbehind := List.append_cancel_left hcs
  cases rest with
  | nil => exact ⟨sign, hsign, blanks, '}', [], hblanks, by decide, by rw [List.append_nil]⟩
  | cons e rest =>
    obtain ⟨rfl, -⟩ := List.cons.inj hbehind
    exact ⟨sign, hsign, blanks, e, rest ++ ['}'], hblanks, hd, by simp⟩

/-- A rewritten tag is one line of its own characters. -/
theorem TagText.IsTag.return_not_mem_rewritten {t : TagText} (ht : t.IsTag .standard names) (hname : IsWord t.name) :
    '\r' ∉ t.rewritten := by
  obtain ⟨sign, hsign, hopening⟩ := ht.opening
  obtain ⟨sign', hsign', hclosing⟩ := ht.closing
  have hsigns : ∀ sign ∈ [[], ['-'], ['+']], '\r' ∉ sign := by decide
  have hbody : '\r' ∉ literalBody (Text.strip t.markup) := fun h => absurd (le_of_mem_literalBody h) (by decide)
  have hliteral := literal_eq (Text.strip t.markup) []
  rw [List.append_nil] at hliteral
  rw [TagText.rewritten, hopening, hclosing, hliteral]
  have hword : '\r' ∉ t.name := hname.isRun.not_mem (by decide)
  simp [Delimiters.standard, hsigns sign hsign, hsigns sign' hsign', hword, hbody]

namespace Piece.Lies

/-- What lies in a text begins with an opening brace. -/
theorem exists_cons (h : piece.Lies o names body) : ∃ more, body = '{' :: more := by
  cases h with
  | raw hblock _ _ =>
    obtain ⟨inner, rfl, -⟩ := hblock.not_mem isLettered_raw
    exact ⟨_, rfl⟩
  | comment _ => exact ⟨_, rfl⟩
  | directive ht _ =>
    obtain ⟨sign, -, hopening⟩ := ht.opening
    simp only [TagText.rewritten, hopening, List.append_assoc]
    exact ⟨_, rfl⟩
  | @tag opening _ _ _ _ _ _ => cases opening <;> exact ⟨_, rfl⟩

/-- What lies in a text ends with a closing brace. -/
theorem exists_concat (h : piece.Lies o names body) : ∃ before, body = before ++ ['}'] := by
  have hsuffix (h : ['}'] <:+ body) : ∃ before, body = before ++ ['}'] := by
    obtain ⟨before, hbefore⟩ := h
    exact ⟨before, hbefore.symm⟩
  refine hsuffix ?_
  cases h with
  | raw _ hblock' _ =>
    obtain ⟨inner, rfl, -⟩ := hblock'.not_mem isLettered_endraw
    exact (List.suffix_append ..).trans (List.suffix_append ..)
  | comment _ => exact (List.suffix_append ['#'] ['}']).trans (List.suffix_append ..)
  | directive ht _ =>
    obtain ⟨sign, -, hclosing⟩ := ht.closing
    have hmark : ['}'] <:+ sign ++ Delimiters.standard.blockEnd :=
      (List.suffix_append ['%'] ['}']).trans (List.suffix_append ..)
    rw [TagText.rewritten, hclosing]
    exact hmark.trans ((List.suffix_cons ..).trans (List.suffix_append ..))
  | @tag opening _ v _ _ hinside _ =>
    have hmark : ['}'] <:+ opening.mode.endMark := by
      rcases opening.mode.endMark_cases with hmark | hmark <;> rw [hmark] <;> exact List.suffix_cons ..
    have hv : (cutSign v).2 <:+ v := ⟨_, (cutSign_eq v).1.symm⟩
    exact hmark.trans (hinside.endMark_suffix.trans (hv.trans (List.suffix_append ..)))

/-- What lies in a text lies in it still when line ends are unified. -/
theorem unifyLineEnds (h : piece.Lies o names body) : piece.Lies o names (unifyLineEnds body) := by
  cases h with
  | @raw cs block inner block' hblock hblock' hinner =>
    obtain ⟨before, hbefore, -⟩ := hblock.not_mem isLettered_raw
    obtain ⟨behind, hbehind, -⟩ := hblock'.not_mem isLettered_endraw
    have hsplit : Text.unifyLineEnds (block ++ inner ++ block') =
        Text.unifyLineEnds block ++ Text.unifyLineEnds inner ++ Text.unifyLineEnds block' := by
      rw [List.append_assoc, unifyLineEnds_behind_brace ⟨_, hbefore⟩, unifyLineEnds_before_brace ⟨_, hbehind⟩,
        List.append_assoc]
    rw [hsplit]
    refine .raw (hblock.unifyLineEnds isLettered_raw) (hblock'.unifyLineEnds isLettered_endraw) ?_
    rintro s ⟨before, hs⟩ hne hhas
    obtain ⟨_, s', rfl, -, rfl⟩ := exists_of_unifyLineEnds_eq hs.symm
    refine hinner s' (List.suffix_append ..) ?_ (hhas.of_unifyLineEnds isLettered_endraw)
    rintro rfl
    exact hne rfl
  | @comment cs inner hinner =>
    have hend (cs : List Char) : Text.unifyLineEnds (cs ++ ['#', '}']) = Text.unifyLineEnds cs ++ ['#', '}'] :=
      unifyLineEnds_append (by decide) cs ['}']
    rw [List.append_assoc, unifyLineEnds_append_left (by decide), hend, ← List.append_assoc]
    refine .comment ?_
    rintro s ⟨before, hs⟩ hne hp
    obtain ⟨_, s', rfl, -, rfl⟩ := exists_of_unifyLineEnds_eq hs.symm
    rw [← hend] at hp
    obtain ⟨tail, htail⟩ := hp
    obtain ⟨rest, hrest, -⟩ := exists_of_unifyLineEnds_plain htail.symm (by decide)
    refine hinner s' (List.suffix_append ..) ?_ ⟨rest, hrest.symm⟩
    rintro rfl
    exact hne rfl
  | directive ht hname =>
    rw [unifyLineEnds_eq (ht.return_not_mem_rewritten hname)]
    exact .directive ht hname
  | @tag opening cs v hkind hraw hinside hbegins =>
    have hmark : '\r' ∉ opening.mark := by cases opening <;> decide
    have hsplit := unifyLineEnds_append_left hmark v
    rw [hsplit]
    refine .tag hkind ?_ ?_ ?_
    · rw [← hsplit]
      exact fun hhas => hraw (hhas.of_unifyLineEnds isLettered_raw)
    · rw [cutSign_unifyLineEnds]
      exact hinside.unifyLineEnds
    · intro name hname
      rw [← hsplit, ← hbegins name hname]
      exact ⟨fun h => h.of_unifyLineEnds hname, fun h => h.unifyLineEnds hname⟩

end Piece.Lies

namespace Laid

variable {pieces : List Piece}

/-- Blanks before a text belong to its first data. -/
theorem blanks {blanks : List Char} (h : Laid o names pieces cs) (hblanks : ∀ c ∈ blanks, Text.isBlank c = true) :
    Laid o names pieces (blanks ++ cs) := by
  cases h with
  | data hcalm => exact .data (hcalm.blanks hblanks)
  | @next _ d body rest _ _ hcalm hlies h =>
    rw [← List.append_assoc, ← List.append_assoc]
    exact .next (hcalm.blanks hblanks) hlies h

theorem unifyLineEnds (h : Laid o names pieces cs) : Laid o names pieces (unifyLineEnds cs) := by
  induction h with
  | data hcalm => exact .data hcalm.unifyLineEnds
  | @next cs d body rest piece pieces hcalm hlies _ ih =>
    have hsplit : Text.unifyLineEnds (d ++ body ++ rest) =
        Text.unifyLineEnds d ++ Text.unifyLineEnds body ++ Text.unifyLineEnds rest := by
      have hbody : ∃ more, body ++ rest = '{' :: more := by
        obtain ⟨more, rfl⟩ := hlies.exists_cons
        exact ⟨_, rfl⟩
      rw [List.append_assoc, unifyLineEnds_before_brace hbody, unifyLineEnds_behind_brace hlies.exists_concat,
        List.append_assoc]
    rw [hsplit]
    exact .next hcalm.unifyLineEnds hlies.unifyLineEnds ih

/-- A last line end is none of a piece. -/
theorem dropLast (h : Laid o names pieces (cs ++ ['\n'])) : Laid o names pieces cs := by
  generalize hlast : cs ++ ['\n'] = text at h
  induction h generalizing cs with
  | @data _ d hcalm =>
    subst hlast
    refine .data fun s hs hne hopens => ?_
    obtain ⟨before, rfl⟩ := hs
    refine hcalm (s ++ ['\n']) ⟨before, (List.append_assoc ..).symm⟩ (by simp) ?_
    rw [List.append_nil] at hopens ⊢
    exact Opens.append hopens _
  | @next _ d body rest piece pieces hcalm hlies h ih =>
    rcases List.eq_nil_or_concat rest with rfl | ⟨rest', c, rfl⟩
    · obtain ⟨before, rfl⟩ := hlies.exists_concat
      rw [List.append_nil, ← List.append_assoc] at hlast
      exact absurd (List.append_inj_right' hlast rfl) (by decide)
    · rw [List.concat_eq_append, ← List.append_assoc] at hlast
      obtain ⟨rfl, hc⟩ := List.append_inj' hlast rfl
      obtain rfl : '\n' = c := List.singleton_inj.1 hc
      exact .next hcalm hlies (ih (List.concat_eq_append ..).symm)

/-- The pieces of a text lie in what the lexer reads of it. -/
theorem sourceText (h : Laid o names pieces cs) (keepLast : Bool) :
    Laid o names pieces (sourceText keepLast cs) := by
  have hunified := h.unifyLineEnds
  unfold Template.sourceText
  simp only
  split
  · exact hunified
  · split
    · next hlast =>
      obtain ⟨before, hbefore⟩ := List.getLast?_eq_some_iff.1 hlast
      rw [hbefore] at hunified ⊢
      rw [List.dropLast_concat]
      exact hunified.dropLast
    · exact hunified

end Laid

theorem HasWordBlock.append {form : Closing} {word : List Char} (h : HasWordBlock form word cs) (tail : List Char) :
    HasWordBlock form word (cs ++ tail) := by
  obtain ⟨block, hblock, hp⟩ := h
  exact ⟨block, hblock, hp.trans (List.prefix_append ..)⟩

theorem BeginsBlock.append {name : List Char} (h : BeginsBlock name cs) (tail : List Char) :
    BeginsBlock name (cs ++ tail) := by
  obtain ⟨sign, hsign, blanks, d, more, hblanks, hd, rfl⟩ := h
  exact ⟨sign, hsign, blanks, d, more ++ tail, hblanks, hd, by simp⟩

/-- Between the marks of a comment of the scan its closing mark does not stand. -/
theorem lies_comment {text after : List Char} (h : comment? .standard cs = some (text, after)) (all : List Char) :
    (Piece.kept all).Lies o names text := by
  unfold comment? at h
  simp only [firstTaken?_eq_firstFound?, Option.bind_eq_bind, Option.bind_eq_some_iff, Prod.exists, Option.some.injEq,
    Prod.mk.injEq] at h
  obtain ⟨start, behind, hstart, inner, mark, _, hfirst, rfl, rfl⟩ := h
  obtain ⟨rfl, -⟩ := mark?_eq hstart
  obtain ⟨more, -, hend, hnone⟩ := firstFound?_eq hfirst
  obtain ⟨rfl, rfl⟩ := mark?_eq hend
  refine .comment fun s hs hne hp => ?_
  have hmark := hnone s hs hne
  obtain ⟨tail, htail⟩ := hp
  rw [← List.append_assoc, show s ++ Delimiters.standard.commentEnd = ['#', '}'] ++ tail from htail.symm,
    List.append_assoc] at hmark
  rw [show ['#', '}'] = Delimiters.standard.commentEnd from rfl, mark?_append] at hmark
  cases hmark

section
variable (ho : o.delimiters = .standard)
include ho

/-- A tag that the lexer leaves lies in a text up to its closing mark. -/
theorem lies_tag {opening : Opening} (hkind : opening = .block ∨ opening = .variable_) {taken sign after : List Char}
    (hopen : opening? o (taken ++ rest) = some (opening, sign, taken, rest)) {size line fuel : Nat}
    (hleave : Cursor.leave? o size fuel false ⟨opening.mode, [], line, rest⟩ = some after) :
    ∃ body eaten, upTo after (taken ++ rest) = body ++ eaten ∧ (∀ c ∈ eaten, Text.isBlank c = true) ∧
      (Piece.ordinary (upTo after (taken ++ rest))).Lies o names body := by
  obtain ⟨w, eaten, hrest, heaten, hinside⟩ := inside_of_leave? ho opening.mode_ne_data hleave
  rcases opening?_cases ho hopen with ⟨rfl, -⟩ | ⟨-, hraw, v, hv, rfl, rfl⟩
  · rcases hkind with hkind | hkind <;> cases hkind
  · obtain ⟨hsplit, -⟩ := cutSign_eq v
    have hw : (cutSign v).1 ++ w ≠ [] := by simp [hinside.ne_nil]
    have hv' : v = (cutSign v).1 ++ w ++ (eaten ++ after) := by
      conv => lhs; rw [hsplit, show (cutSign v).2 = _ from hrest, ← List.append_assoc]
    -- The sign is the one that is cut off what lies in the text.
    have hcut := cutSign_append_right hw (eaten ++ after)
    rw [← hv'] at hcut
    have hinner : (cutSign ((cutSign v).1 ++ w)).2 = w := by
      refine @List.append_cancel_right _ _ (eaten ++ after) _ ?_
      rw [← hrest]
      exact (Prod.mk.inj hcut).2.symm
    have hsource : upTo after (opening.mark ++ (cutSign v).1 ++ (cutSign v).2) =
        opening.mark ++ ((cutSign v).1 ++ w) ++ eaten := by
      refine @List.append_cancel_right _ _ after _ ?_
      rw [upTo_append, show (cutSign v).2 = _ from hrest]
      · simp
      · rw [show (cutSign v).2 = _ from hrest]
        exact ((List.suffix_append ..).trans (List.suffix_append ..)).trans (List.suffix_append ..)
    have hraw' : ¬ HasWordBlock ⟨false, false⟩ "raw".toList (opening.mark ++ ((cutSign v).1 ++ w)) := by
      intro hhas
      refine hraw ?_
      rw [hv, hv', ← List.append_assoc]
      exact hhas.append _
    have hinside' : Inside opening.mode [] (cutSign ((cutSign v).1 ++ w)).2 := by
      rw [hinner]
      exact hinside
    refine ⟨_, eaten, hsource, heaten, .tag hkind hraw' hinside' fun name hname => ?_⟩
    -- What begins the tag with its blanks begins it without them, for it ends with a brace.
    have hlies : (Piece.ordinary _).Lies o names (opening.mark ++ ((cutSign v).1 ++ w)) :=
      .tag hkind hraw' hinside' fun _ _ => Iff.rfl
    obtain ⟨before, hbefore⟩ := hlies.exists_concat
    rw [hsource]
    refine ⟨fun hbegins => hbegins.append eaten, fun hbegins => ?_⟩
    rw [hbefore] at hbegins ⊢
    exact BeginsBlock.up_to_brace hname (by simpa using hbegins)

/-- What the lexer comes across where something opens lies, rewritten, in a text up to its closing mark. -/
theorem Stretch.lies (hnames : ∀ t, piece = .directive t → IsWord t.name) {opening : Opening}
    {taken sign after : List Char}
    (hopen : opening? o (taken ++ rest) = some (opening, sign, taken, rest))
    (h : Stretch o names opening taken rest piece after) :
    ∃ body eaten, piece.rewritten = body ++ eaten ∧ (∀ c ∈ eaten, Text.isBlank c = true) ∧
      piece.Lies o names body := by
  obtain ⟨-, hraw, hcomment⟩ := opening?_eq ho hopen
  cases h with
  | @raw _ _ inner sign' close _ hclose =>
    obtain ⟨block, eaten, hblock, rfl, -, heaten⟩ := isWordBlock_of_wordTag? ho (hraw rfl)
    obtain ⟨more, -, hend, hnone⟩ := firstFound?_eq hclose
    obtain ⟨block', eaten', hblock', rfl, rfl, heaten'⟩ := isWordBlock_of_wordTag? ho hend
    refine ⟨block ++ (eaten ++ inner) ++ block', eaten', by simp [Piece.rewritten, Piece.source], heaten', ?_⟩
    refine .raw hblock hblock' fun s hs hne hhas => ?_
    rcases List.suffix_or_suffix_of_suffix hs (List.suffix_append eaten inner) with hinner | ⟨blanks, rfl⟩
    · refine (wordTag?_eq_none_iff ho isLettered_endraw).1 (hnone s hinner hne) ?_
      exact hhas.append _
    · cases blanks with
      | nil => exact (wordTag?_eq_none_iff ho isLettered_endraw).1 (hnone _ (List.suffix_refl _) hne) (hhas.append _)
      | cons c blanks =>
        obtain ⟨rfl, -⟩ := opens_cons.1 hhas.opens
        have hsuffix : '{' :: blanks <:+ eaten := by
          obtain ⟨before, hbefore⟩ := hs
          rw [← List.append_assoc] at hbefore
          exact ⟨before, List.append_cancel_right hbefore⟩
        exact absurd (heaten '{' (hsuffix.mem (List.mem_cons_self ..))) (by decide)
  | comment hclose =>
    obtain ⟨text, eaten, hregion, hsource, -, heaten⟩ := comment?_of_openMark? ho (hcomment rfl) hclose
    exact ⟨text, eaten, hsource, heaten, lies_comment hregion _⟩
  | directive htag =>
    rw [ho] at htag
    obtain ⟨-, ht, -⟩ := tag?_eq htag
    exact ⟨_, [], (List.append_nil _).symm, by simp, .directive ht (hnames _ rfl)⟩
  | block _ hleave => exact lies_tag ho (.inl rfl) hopen hleave
  | expression hleave => exact lies_tag ho (.inr rfl) hopen hleave

/-- The pieces of a text lie, rewritten, in the text with its directive tags rewritten. -/
theorem laid_of_tiles {pieces : List Piece} (h : Tiles o names cs pieces)
    (hnames : ∀ t, .directive t ∈ pieces → IsWord t.name) :
    Laid o names pieces (pieces.flatMap Piece.rewritten) := by
  induction h with
  | @data cs hnone =>
    have hcalm : Calm [] cs := fun s hs _ => by
      rw [List.append_nil]
      exact (opening?_eq_none_iff ho).1 (firstFound?_eq_none_iff.1 hnone s hs)
    show Laid o names [.data cs] (cs ++ [])
    rw [List.append_nil]
    exact .data hcalm
  | @next cs before sign taken rest after opening piece pieces hfirst hstretch _ ih =>
    obtain ⟨more, -, hopen, hnone⟩ := firstFound?_eq hfirst
    obtain ⟨rfl, -⟩ := opening?_eq ho hopen
    have hpiece : ∀ t, piece = .directive t → IsWord t.name := fun t ht => hnames t (by simp [ht])
    obtain ⟨body, eaten, hbody, heaten, hlies⟩ := hstretch.lies ho hpiece hopen
    obtain ⟨tail, htail⟩ : ∃ tail, taken ++ rest = '{' :: tail := by
      have hopens : Opens (taken ++ rest) := Classical.byContradiction fun hnot => by
        rw [(opening?_eq_none_iff ho).2 hnot] at hopen
        cases hopen
      obtain ⟨c, -, more, hmore⟩ := hopens
      exact ⟨_, hmore.symm⟩
    have hcalm : Calm ['{'] before := fun s hs hne hopens => by
      refine (opening?_eq_none_iff ho).1 (hnone s hs hne) ?_
      rw [htail]
      simpa using hopens.append tail
    have hbehind := ih fun t ht => hnames t (by simp [ht])
    have hnext := @Laid.next _ _ before _ _ _ _ _ hcalm hlies (hbehind.blanks heaten)
    rw [List.flatMap_cons, List.flatMap_cons, hbody]
    show Laid o names _ (before ++ _)
    simpa using hnext

end

end

end Transclusion.Template

import Transclusion.Proofs.Layouts

/-! The lines of tokens.

A step of the lexer takes a text from the front and counts the line feeds in it, and the
tokens that it leaves stand in what it takes, on the lines that they say (`Move.Counts`). So
every token of a run stands somewhere in the text, with as many line feeds before it as its
line says (`standsIn_tokens`), a token for the end of the text apart, which stands on the
line of the token before it (`tokenize_lines`). -/
namespace Transclusion.Template

open Text (lineFeeds)

variable {o : Options} {cs rest taken : List Char}

theorem lineFeeds_append (a b : List Char) : lineFeeds (a ++ b) = lineFeeds a + lineFeeds b :=
  List.count_append ..

theorem lineFeeds_eq_zero (h : '\n' ∉ cs) : lineFeeds cs = 0 := List.count_eq_zero.2 h

/-- From a text to an end of it, within a line. -/
def StaysOnLine (cs rest : List Char) : Prop := ∃ taken, cs = taken ++ rest ∧ '\n' ∉ taken

theorem StridesOnLine.staysOnLine (h : StridesOnLine cs rest) : StaysOnLine cs rest := by
  obtain ⟨taken, htaken, -, hfeed⟩ := h.glidesOnLine
  exact ⟨taken, htaken, hfeed⟩

/-- A literal has the line feeds of what stands between its marks. -/
theorem IsLiteral.eq_append {mark : Char} {lit body : List Char} (h : IsLiteral mark lit body) :
    lit = body ++ [mark] := by
  induction h with
  | close => rfl
  | escape _ ih => rw [ih]; rfl
  | char _ _ _ ih => rw [ih]; rfl

theorem lineFeeds_literal {mark : Char} {lit body : List Char} (hmark : mark = '"' ∨ mark = '\'')
    (h : IsLiteral mark lit body) : lineFeeds (mark :: lit) = lineFeeds body := by
  have hmark : lineFeeds [mark] = 0 := by rcases hmark with rfl | rfl <;> rfl
  rw [← List.singleton_append, h.eq_append, lineFeeds_append, lineFeeds_append, hmark, Nat.zero_add, Nat.add_zero]

theorem staysOnLine_word (cs : List Char) : StaysOnLine cs (cs.dropWhile Text.isWordChar) := by
  refine ⟨_, List.takeWhile_append_dropWhile.symm, fun hfeed => ?_⟩
  exact absurd (List.mem_takeWhile_imp hfeed) (by decide)

theorem staysOnLine_symbol {symbol : List Char} (h : symbol ∈ symbols) (rest : List Char) :
    StaysOnLine (symbol ++ rest) rest := by
  have hfeed : ∀ symbol ∈ symbols, '\n' ∉ symbol := by decide
  exact ⟨symbol, rfl, hfeed symbol h⟩

/-! ### Steps -/

/-- Names, symbols and the openings of tags stand in a text as they are. -/
def TokenKind.BeginsIn : TokenKind → List Char → Prop
  | .blockBegin, cs => ['{', '%'] <+: cs
  | .variableBegin, cs => ['{', '{'] <+: cs
  | .name s, cs => s.toList <+: cs
  | .symbol s, cs => s.toList <+: cs
  | _, _ => True

theorem TokenKind.IsNumber.beginsIn {kind : TokenKind} (h : kind.IsNumber) (cs : List Char) : kind.BeginsIn cs := by
  cases kind <;> first | exact h.elim | trivial

/-- The token stands somewhere in a text that begins on a line, with the line feeds before it that its own
line tells. -/
def Token.StandsIn (t : Token) (line : Nat) (cs : List Char) : Prop :=
  ∃ before behind, cs = before ++ behind ∧ behind ≠ [] ∧ t.line = line + lineFeeds before ∧ t.kind.BeginsIn behind

theorem Token.standsIn_here {line : Nat} {kind : TokenKind} (hcs : cs ≠ []) (h : kind.BeginsIn cs) :
    Token.StandsIn ⟨line, kind⟩ line cs := ⟨[], cs, rfl, hcs, rfl, h⟩

/-- A token that stands in an end of a text stands in the text. -/
theorem Token.StandsIn.behind {t : Token} {line : Nat} {before : List Char}
    (h : t.StandsIn (line + lineFeeds before) cs) : t.StandsIn line (before ++ cs) := by
  obtain ⟨more, behind, rfl, hbehind, hline, hbegins⟩ := h
  refine ⟨before ++ more, behind, (List.append_assoc ..).symm, hbehind, ?_, hbegins⟩
  rw [lineFeeds_append, hline, Nat.add_assoc]

/-- A step through a text that begins on a line counts the lines of what it takes. -/
def Move.Counts (line : Nat) (cs : List Char) : Move → Prop
  | .halt tokens => ∀ t ∈ tokens, t.StandsIn line cs
  | .go tokens next => (∀ t ∈ tokens, t.StandsIn line cs) ∧
    ∃ taken, cs = taken ++ next.rest ∧ next.line = line + lineFeeds taken

theorem Move.Counts.of_halt {line : Nat} {t : Token} (h : t.StandsIn line cs) : (Move.halt [t]).Counts line cs := by
  intro t' ht
  rwa [List.mem_singleton.1 ht]

/-- A step behind what has been taken. -/
theorem Move.Counts.after {line : Nat} {before : List Char} {tokens : List Token} {m : Move}
    (h : m.Counts (line + lineFeeds before) cs) (htokens : ∀ t ∈ tokens, t.StandsIn line (before ++ cs)) :
    (m.after tokens).Counts line (before ++ cs) := by
  cases m with
  | halt more =>
    intro t ht
    exact (List.mem_append.1 ht).elim (htokens t) fun hmore => (h t hmore).behind
  | go more next =>
    obtain ⟨hmore, taken, rfl, hnext⟩ := h
    refine ⟨fun t ht => ?_, before ++ taken, (List.append_assoc ..).symm, ?_⟩
    · exact (List.mem_append.1 ht).elim (htokens t) fun hmem => (hmore t hmem).behind
    · rw [hnext, lineFeeds_append, Nat.add_assoc]

theorem Move.Counts.one {line : Nat} {kind : TokenKind} {next : Cursor} (hcs : cs ≠ []) (hkind : kind.BeginsIn cs)
    {taken : List Char} (htaken : cs = taken ++ next.rest) (hnext : next.line = line + lineFeeds taken) :
    (Move.go [⟨line, kind⟩] next).Counts line cs := by
  refine ⟨fun t ht => ?_, taken, htaken, hnext⟩
  rw [List.mem_singleton.1 ht]
  exact Token.standsIn_here hcs hkind

theorem Move.Counts.broken {line : Nat} (fault : LexicalFault) (hcs : cs ≠ []) :
    (Move.halt [⟨line, .broken fault⟩]).Counts line cs :=
  .of_halt (Token.standsIn_here hcs trivial)

/-- A step over a token within a line. -/
theorem Move.Counts.onLine {line : Nat} {kind : TokenKind} {next : Cursor} (hcs : cs ≠ [])
    (hkind : kind.BeginsIn cs) (h : StaysOnLine cs next.rest) (hnext : next.line = line) :
    (Move.go [⟨line, kind⟩] next).Counts line cs := by
  obtain ⟨taken, htaken, hfeed⟩ := h
  exact Move.Counts.one hcs hkind htaken (by rw [hnext, lineFeeds_eq_zero hfeed, Nat.add_zero])

/-- Whatever a step within a tag passes, it counts the lines of it. -/
theorem StepsTo.counts {c : Cursor} {m : Move} (h : StepsTo c m) : m.Counts c.line c.rest := by
  cases h with
  | closing hbrackets hsign hrest heaten =>
    refine Move.Counts.one ?_ ?_ hrest rfl
    · have hmark := c.mode.length_endMark
      rw [hrest]
      intro hnil
      simp only [List.append_eq_nil_iff] at hnil
      simp [hnil.1.1.2] at hmark
    · rcases c.mode.endKind_cases with h | h <;> rw [h] <;> trivial
  | finish => exact fun t ht => absurd ht List.not_mem_nil
  | blanks => exact ⟨fun t ht => absurd ht List.not_mem_nil, _, List.takeWhile_append_dropWhile.symm, rfl⟩
  | number hkind hstrides => exact .onLine hstrides.ne_nil (hkind.beginsIn _) hstrides.staysOnLine rfl
  | word hrest =>
    refine Move.Counts.onLine (by simp [hrest]) ?_ (staysOnLine_word _) rfl
    show (String.ofList _).toList <+: c.rest
    rw [String.toList_ofList]
    exact List.takeWhile_prefix _
  | literal text hquote hlit hrest =>
    have hlines := lineFeeds_literal hquote hlit
    exact Move.Counts.one (by simp [hrest]) trivial hrest (by rw [hlines])
  | symbol hsymbol hrest =>
    obtain ⟨d, taken, rfl, -⟩ := exists_of_mem_symbols hsymbol
    refine Move.Counts.onLine (by simp [hrest]) ?_ (hrest ▸ staysOnLine_symbol hsymbol _) rfl
    show (String.ofList _).toList <+: c.rest
    rw [String.toList_ofList, hrest]
    exact List.prefix_append ..
  | broken fault hne => exact .broken fault hne

section
variable (ho : o.delimiters = .standard)
include ho

omit ho in
theorem standsIn_dataTokens {line : Nat} {text : List Char} (h : text ≠ [] → cs ≠ []) :
    ∀ t ∈ dataTokens o line text, t.StandsIn line cs := by
  intro t ht
  unfold dataTokens at ht
  split at ht
  · exact absurd ht List.not_mem_nil
  · next htext =>
    rw [List.mem_singleton.1 ht]
    exact Token.standsIn_here (h htext) trivial

theorem counts_commentMove (line : Nat) (cs : List Char) : (commentMove o line cs).Counts line cs := by
  unfold commentMove
  split
  · exact fun t ht => absurd ht List.not_mem_nil
  · next hne =>
    split
    · exact .broken _ hne
    · next before taken rest hfirst =>
      have hreader : ∀ cs taken rest, closeMark? o.closing o.delimiters.commentEnd cs = some (taken, rest) →
          cs = taken ++ rest := by
        intro cs taken rest h
        rw [ho] at h
        obtain ⟨sign, -, eaten, rfl, hrest, -⟩ := @closeMark?_eq_some _ _ _ _ '#' ['}'] h
        exact hrest
      obtain ⟨rfl, -⟩ := firstTaken?_eq hreader hfirst
      refine ⟨fun t ht => absurd ht List.not_mem_nil, before ++ taken, rfl, ?_⟩
      rw [lineFeeds_append, ← Nat.add_assoc]
      rfl

theorem counts_rawMove (startsLine : Bool) (line : Nat) (cs : List Char) :
    (rawMove o startsLine line cs).Counts line cs := by
  unfold rawMove
  split
  · exact fun t ht => absurd ht List.not_mem_nil
  · next hne =>
    split
    · exact .broken _ hne
    · next before sign taken rest hfirst =>
      obtain ⟨more, rfl, htag, -⟩ := firstFound?_eq hfirst
      obtain ⟨block, eaten, -, rfl, rfl, -⟩ := isWordBlock_of_wordTag? ho htag
      refine ⟨standsIn_dataTokens fun _ => hne, before ++ (block ++ eaten), (List.append_assoc ..).symm, ?_⟩
      rw [lineFeeds_append, ← Nat.add_assoc]
      rfl

/-- A tag that is opened in the data stands there by its mark. -/
theorem opening_mark_prefix {opening : Opening} {sign : List Char}
    (h : opening? o cs = some (opening, sign, taken, rest)) (hraw : opening ≠ .raw) : opening.mark <+: cs := by
  rcases opening?_cases ho h with ⟨rfl, -⟩ | ⟨-, -, v, rfl, -⟩
  · exact absurd rfl hraw
  · exact List.prefix_append ..

theorem ne_nil_of_opening? {found : Opening × List Char × List Char × List Char} (h : opening? o cs = some found) :
    cs ≠ [] := by
  rintro rfl
  have hopens : ¬Opens [] := by
    rintro ⟨c, -, hprefix⟩
    exact absurd (List.prefix_nil.1 hprefix) (List.cons_ne_nil _ _)
  rw [(opening?_eq_none_iff ho).2 hopens] at h
  cases h

theorem counts_dataMove (startsLine : Bool) (line : Nat) (cs : List Char) :
    (dataMove o startsLine line cs).Counts line cs := by
  unfold dataMove
  split
  · exact standsIn_dataTokens id
  · next before opening sign taken rest hfirst =>
    obtain ⟨more, rfl, hopening, -⟩ := firstFound?_eq hfirst
    have hne := ne_nil_of_opening? ho hopening
    have hmark := opening_mark_prefix ho hopening
    obtain ⟨rfl, -, -⟩ := opening?_eq ho hopening
    have hdata : ∀ t ∈ dataTokens o line (dataBefore o startsLine (opening ≠ .variable_) sign before),
        t.StandsIn line (before ++ (taken ++ rest)) :=
      standsIn_dataTokens fun _ => List.append_ne_nil_of_right_ne_nil _ hne
    have hbehind : line + lineFeeds before + lineFeeds taken = line + lineFeeds (before ++ taken) := by
      rw [lineFeeds_append, Nat.add_assoc]
    simp only
    split
    · rw [← List.append_assoc] at hdata ⊢
      rw [hbehind]
      exact (counts_rawMove ho _ _ _).after hdata
    · rw [← List.append_assoc] at hdata ⊢
      rw [hbehind]
      exact (counts_commentMove ho _ _).after hdata
    · have hbegins : TokenKind.blockBegin.BeginsIn (taken ++ rest) := hmark (by decide)
      have hopen : (Move.go [⟨line + lineFeeds before, .blockBegin⟩] ⟨.block, [], _, rest⟩).Counts _ _ :=
        .one hne hbegins rfl rfl
      exact hopen.after hdata
    · have hbegins : TokenKind.variableBegin.BeginsIn (taken ++ rest) := hmark (by decide)
      have hopen : (Move.go [⟨line + lineFeeds before, .variableBegin⟩] ⟨.variable_, [], _, rest⟩).Counts _ _ :=
        .one hne hbegins rfl rfl
      exact hopen.after hdata

/-- A step counts the lines of what it takes. -/
theorem counts_move (size : Nat) (afterPoint : Bool) (c : Cursor) :
    (c.move o size afterPoint).Counts c.line c.rest := by
  unfold Cursor.move
  split
  · exact counts_dataMove ho _ _ _
  · exact (stepsTo_tagMove ho).counts

/-! ### Runs -/

/-- So the tokens of a run stand on their lines, by induction on the steps. -/
theorem standsIn_tokens {size fuel : Nat} {afterPoint : Bool} {c : Cursor} :
    ∀ t ∈ c.tokens o size fuel afterPoint, t.StandsIn c.line c.rest := by
  induction fuel generalizing afterPoint c with
  | zero => exact fun t ht => absurd ht List.not_mem_nil
  | succ fuel ih =>
    have hmove := counts_move ho size afterPoint c
    unfold Cursor.tokens
    split
    · next tokens heq =>
      rw [heq] at hmove
      exact hmove
    · next tokens next heq =>
      rw [heq] at hmove
      obtain ⟨htokens, taken, hrest, hline⟩ := hmove
      intro t ht
      rcases List.mem_append.1 ht with ht | ht
      · exact htokens t ht
      · have hbehind := ih t ht
        rw [hline] at hbehind
        rw [hrest]
        exact hbehind.behind

/-- A token of a template stands in its text, on the line that it says. One for the end of the text has
the line of a token before it, or the first. -/
theorem tokenize_lines (cs : List Char) :
    ∀ t ∈ tokenize o cs, t.StandsIn 1 (sourceText o.keepLastLineEnd cs) ∨
      t.kind = .finish ∧ (t.line = 1 ∨ ∃ last ∈ tokenize o cs, last.StandsIn 1 (sourceText o.keepLastLineEnd cs) ∧
        t.line = last.line) := by
  have hstands : ∀ t ∈ Cursor.tokens o (sourceText o.keepLastLineEnd cs).length
      ((sourceText o.keepLastLineEnd cs).length + 1) false ⟨.data true, [], 1, sourceText o.keepLastLineEnd cs⟩,
      t.StandsIn 1 (sourceText o.keepLastLineEnd cs) := standsIn_tokens ho
  unfold tokenize
  simp only
  generalize Cursor.tokens o _ _ _ _ = tokens at hstands ⊢
  split
  · intro t ht
    rw [List.mem_singleton.1 ht]
    exact .inr ⟨rfl, .inl rfl⟩
  · next last hlast =>
    have hmem : last ∈ tokens := List.mem_of_getLast? hlast
    split
    · exact fun t ht => .inl (hstands t ht)
    · intro t ht
      rcases List.mem_append.1 ht with ht | ht
      · exact .inl (hstands t ht)
      · rw [List.mem_singleton.1 ht]
        exact .inr ⟨rfl, .inr ⟨last, List.mem_append_left _ hmem, hstands last hmem, rfl⟩⟩

end

end Transclusion.Template

import Transclusion.Proofs.Layouts
import Transclusion.Proofs.Meeting

/-! Blocks of directives in a text in which pieces lie.

From data in which nothing opens the lexer comes to the piece behind it, and through
it to the data behind that, unless there is something in the piece that it cannot
read (`isReadOn_next`). What it has read stands for the piece among the tokens
(`Covers`): data, or one tag from its opening to its closing. So the tokens of the
text are in order, and the blocks of directives among them are those that the
pieces write, one behind the other (`tokenize_laid`). -/
namespace Transclusion.Template

variable {o : Options} {names : List (List Char)} {directives : List String} {piece : Piece} {pieces : List Piece}
  {cs d body rest : List Char} {tokens : List Token}

/-! ### What pieces write -/

/-- The tag of a directive as the scan does not take one: with something else than a blank behind its name. -/
def Piece.IsGlued (n : String) : Piece → Prop
  | ordinary cs => BeginsBlock n.toList cs
  | _ => False

/-- A piece without a directive. -/
def Piece.IsPlain (directives : List String) (piece : Piece) : Prop :=
  (∀ t, piece ≠ .directive t) ∧ ∀ n ∈ directives, ¬ piece.IsGlued n

/-- The blocks of directives that pieces write: of each directive tag one with its name and its markup, and one of
each other tag that begins with the name of a directive. -/
inductive Writes (directives : List String) : List Piece → List (String × List Token) → Prop where
  | nil : Writes directives [] []
  | directive {t : TagText} {line line' : Nat} {more : List Token} {pieces : List Piece}
      {blocks : List (String × List Token)} : String.ofList t.name ∈ directives → Writes directives pieces blocks →
    Writes directives (.directive t :: pieces)
      ((String.ofList t.name, ⟨line, .string (String.ofList (Text.strip t.markup))⟩ :: ⟨line', .blockEnd⟩ :: more) ::
        blocks)
  | glued {piece : Piece} {n : String} {more : List Token} {pieces : List Piece} {blocks : List (String × List Token)} :
    n ∈ directives → piece.IsGlued n → Writes directives pieces blocks →
    Writes directives (piece :: pieces) ((n, more) :: blocks)
  | plain {piece : Piece} {pieces : List Piece} {blocks : List (String × List Token)} : piece.IsPlain directives →
    Writes directives pieces blocks → Writes directives (piece :: pieces) blocks

theorem isPlain_data (cs : List Char) : (Piece.data cs).IsPlain directives := ⟨by simp, fun _ _ h => h⟩

theorem isPlain_kept (cs : List Char) : (Piece.kept cs).IsPlain directives := ⟨by simp, fun _ _ h => h⟩

theorem Writes.append {pieces' : List Piece} {blocks blocks' : List (String × List Token)}
    (h : Writes directives pieces blocks) (h' : Writes directives pieces' blocks') :
    Writes directives (pieces ++ pieces') (blocks ++ blocks') := by
  induction h with
  | nil => exact h'
  | directive hname _ ih => exact .directive hname ih
  | glued hn hbegins _ ih => exact .glued hn hbegins ih
  | plain hpiece _ ih => exact .plain hpiece ih

/-! ### Tokens that stand for a piece -/

/-- Tokens that stand for a piece: in front of a row in order they make one, the text goes on behind them, and the
blocks of directives that begin in them are those that the piece writes. -/
structure Covers (directives : List String) (piece : Piece) (tokens : List Token) : Prop where
  formed {rest : List Token} : Formed false rest → Formed false (tokens ++ rest)
  goesOn : ∀ t ∈ tokens, ¬ t.EndsText
  blocks (rest : List Token) : ∃ blocks, Writes directives [piece] blocks ∧
    directiveBlocks directives (tokens ++ rest) = blocks ++ directiveBlocks directives rest

/-- Tokens of data. -/
def AreData (tokens : List Token) : Prop := ∀ t ∈ tokens, ∃ text, t.kind = .data text

theorem areData_dataTokens (line : Nat) (text : List Char) : AreData (dataTokens o line text) := by
  unfold dataTokens
  split <;> simp [AreData]

namespace AreData

theorem append {more : List Token} (h : AreData tokens) (h' : AreData more) : AreData (tokens ++ more) :=
  fun t ht => (List.mem_append.1 ht).elim (h t) (h' t)

variable (h : AreData tokens)
include h

theorem formed {more : List Token} (hmore : Formed false more) : Formed false (tokens ++ more) := by
  induction tokens with
  | nil => exact hmore
  | cons t tokens ih =>
    obtain ⟨line, kind⟩ := t
    obtain ⟨text, rfl⟩ := h _ (List.mem_cons_self ..)
    exact .data (ih fun u hu => h u (List.mem_cons_of_mem _ hu))

theorem goesOn {t : Token} (ht : t ∈ tokens) : ¬ t.EndsText := by
  obtain ⟨text, htext⟩ := h t ht
  rintro (hend | ⟨fault, hend⟩) <;> rw [htext] at hend <;> cases hend

theorem directiveBlocks_append (rest : List Token) :
    directiveBlocks directives (tokens ++ rest) = directiveBlocks directives rest := by
  refine Template.directiveBlocks_append fun t ht => ?_
  obtain ⟨text, htext⟩ := h t ht
  simp [htext]

theorem covers (hpiece : piece.IsPlain directives) : Covers directives piece tokens :=
  ⟨h.formed, fun _ => h.goesOn, fun rest => ⟨[], .plain hpiece .nil, h.directiveBlocks_append rest⟩⟩

/-- Data may stand before the tokens of a piece. -/
theorem before {more : List Token} (hmore : Covers directives piece more) :
    Covers directives piece (tokens ++ more) where
  formed hrest := by
    rw [List.append_assoc]
    exact h.formed (hmore.formed hrest)
  goesOn t ht := (List.mem_append.1 ht).elim h.goesOn (hmore.goesOn t)
  blocks rest := by
    rw [List.append_assoc, h.directiveBlocks_append]
    exact hmore.blocks rest

end AreData

section
variable {t first last : Token} {inner rest : List Token}

theorem kind_ne_of_isInner (h : t.kind.isInner = true) :
    t.kind ≠ .blockBegin ∧ t.kind ≠ .blockEnd ∧ t.kind ≠ .variableEnd ∧ ¬ t.EndsText := by
  refine ⟨?_, ?_, ?_, ?_⟩
  · intro hkind; rw [hkind] at h; cases h
  · intro hkind; rw [hkind] at h; cases h
  · intro hkind; rw [hkind] at h; cases h
  · rintro (hkind | ⟨fault, hkind⟩) <;> rw [hkind] at h <;> cases h

theorem formed_inner (hinner : ∀ t ∈ inner, t.kind.isInner = true) (hrest : Formed true rest) :
    Formed true (inner ++ rest) := by
  induction inner with
  | nil => exact hrest
  | cons t inner ih =>
    obtain ⟨-, hblock, hvariable, hends⟩ := kind_ne_of_isInner (hinner t (List.mem_cons_self ..))
    exact .between ⟨hblock, hvariable⟩ hends (ih fun u hu => hinner u (List.mem_cons_of_mem _ hu))

/-- A tag begins with the name of a directive if this stands first in it. -/
theorem directiveHere?_eq_some {found : String × List Token}
    (h : directiveHere? directives (first :: (inner ++ last :: rest)) = some found)
    (hlast : last.kind = .blockEnd ∨ last.kind = .variableEnd) :
    first.kind = .blockBegin ∧ found.1 ∈ directives ∧ ∃ t ∈ inner.head?, t.kind = .name found.1 := by
  unfold directiveHere? at h
  split at h
  · next heq =>
    obtain ⟨rfl, hbehind⟩ := List.cons.inj heq
    split at h
    · next hmem =>
      obtain rfl := Option.some.inj h
      refine ⟨rfl, hmem, ?_⟩
      cases inner with
      | nil =>
        obtain ⟨rfl, -⟩ := List.cons.inj hbehind
        rcases hlast with hlast | hlast <;> cases hlast
      | cons t inner =>
        obtain ⟨rfl, -⟩ := List.cons.inj hbehind
        exact ⟨_, rfl, rfl⟩
    · cases h
  · cases h

/-- The tokens of one tag stand for a piece, if the block of a directive that begins with them is what it writes. -/
theorem covers_tag (hfirst : first.kind = .blockBegin ∨ first.kind = .variableBegin)
    (hinner : ∀ t ∈ inner, t.kind.isInner = true) (hlast : last.kind = .blockEnd ∨ last.kind = .variableEnd)
    (hwrites : ∀ rest,
      Writes directives [piece] (directiveHere? directives (first :: (inner ++ last :: rest))).toList) :
    Covers directives piece (first :: (inner ++ [last])) where
  formed hrest := by
    have htag := Formed.opening hfirst (formed_inner hinner (.closing hlast hrest))
    simpa using htag
  goesOn t ht := by
    have hmarks : ∀ kind ∈ [TokenKind.blockBegin, .variableBegin, .blockEnd, .variableEnd], ∀ t : Token,
        t.kind = kind → ¬ t.EndsText := by
      rintro kind hkind t rfl (hend | ⟨fault, hend⟩) <;> rw [hend] at hkind <;> simp at hkind
    rcases List.mem_cons.1 ht with rfl | ht
    · exact hfirst.elim (hmarks _ (by simp) _) (hmarks _ (by simp) _)
    · rcases List.mem_append.1 ht with ht | ht
      · exact (kind_ne_of_isInner (hinner t ht)).2.2.2
      · obtain rfl := List.mem_singleton.1 ht
        exact hlast.elim (hmarks _ (by simp) _) (hmarks _ (by simp) _)
  blocks rest := by
    refine ⟨_, hwrites rest, ?_⟩
    have hnone : directiveBlocks directives (inner ++ last :: rest) = directiveBlocks directives rest := by
      rw [List.append_cons]
      refine directiveBlocks_append fun t ht => ?_
      rcases List.mem_append.1 ht with ht | ht
      · exact (kind_ne_of_isInner (hinner t ht)).1
      · obtain rfl := List.mem_singleton.1 ht
        rcases hlast with hlast | hlast <;> simp [hlast]
    rw [List.cons_append, List.append_assoc, List.singleton_append, directiveBlocks, hnone]

end

/-! ### The way to a piece -/

section
variable (ho : o.delimiters = .standard)
include ho

/-- Where nothing opens in the data, what opens behind them is found first. -/
theorem firstFound?_calm {found : Opening × List Char × List Char × List Char} (hcalm : Calm ['{'] d)
    (hbody : ∃ more, body = '{' :: more) (hopen : opening? o (body ++ rest) = some found) :
    firstFound? (opening? o) (d ++ body ++ rest) = some (d, found) := by
  obtain ⟨more, rfl⟩ := hbody
  refine firstFound?_eq_some_iff.2 ⟨_, List.append_assoc .., hopen, fun s hs hne => ?_⟩
  refine (opening?_eq_none_iff ho).2 fun hopens => hcalm s hs hne ?_
  obtain ⟨c, s, rfl⟩ := List.exists_cons_of_ne_nil hne
  obtain ⟨rfl, e, he, hhead⟩ := opens_cons.1 hopens
  exact opens_cons.2 ⟨rfl, e, he, by simpa [List.head?_append] using hhead⟩

end

/-- A run of blanks at the start of a text ends before a brace. -/
theorem exists_of_blanks_append {eaten after inner more : List Char} (h : inner ++ '{' :: more = eaten ++ after)
    (heaten : ∀ c ∈ eaten, Text.isBlank c = true) :
    ∃ inner', inner = eaten ++ inner' ∧ after = inner' ++ '{' :: more := by
  rcases List.append_eq_append_iff.1 h with ⟨e, rfl, hmore⟩ | ⟨e, rfl, hafter⟩
  · cases e with
    | nil => exact ⟨[], by simp, by simpa using hmore.symm⟩
    | cons c e =>
      obtain ⟨rfl, -⟩ := List.cons.inj hmore
      exact absurd (heaten '{' (by simp)) (by decide)
  · exact ⟨e, rfl, hafter⟩

/-- A row of tokens in order, the last of which says why the text cannot be read further. -/
def IsCutOff (tokens : List Token) : Prop :=
  Formed false tokens ∧ ∃ last fault, tokens.getLast? = some last ∧ last.kind = .broken fault

/-- What comes of reading on from data to behind a piece: tokens that stand for it, and those of the rest without
some blanks, or tokens that are cut off. -/
def IsReadOn (o : Options) (directives : List String) (size : Nat) (piece : Piece) (rest : List Char)
    (tokens : List Token) : Prop :=
  (∃ covering line close eaten after fuel, rest = eaten ++ after ∧ (∀ c ∈ eaten, Text.isBlank c = true) ∧
    after.length < fuel ∧ Covers directives piece covering ∧
    tokens = covering ++ (Cursor.behind line close after).tokens o size fuel false) ∨ IsCutOff tokens

/-! ### Raw regions and comments -/

section
variable (ho : o.delimiters = .standard)
include ho

/-- A raw region that lies in a text ends at its own closing, and perhaps takes blanks behind it. -/
theorem firstFound?_raw {inner block : List Char} (hblock : IsWordBlock o.closing "endraw".toList block)
    (hinner : ∀ s, s <:+ inner → s ≠ [] → ¬ HasWordBlock o.closing "endraw".toList s) (rest : List Char) :
    ∃ sign eaten after, firstFound? (wordTag? o o.closing "endraw") (inner ++ block ++ rest) =
        some (inner, sign, block ++ eaten, after) ∧ rest = eaten ++ after ∧ ∀ c ∈ eaten, Text.isBlank c = true := by
  obtain ⟨sign, eaten, after, hend, hrest, heaten⟩ := wordTag?_append ho isLettered_endraw hblock rest
  refine ⟨sign, eaten, after, firstFound?_eq_some_iff.2 ⟨_, List.append_assoc .., hend, fun s hs hne => ?_⟩, hrest,
    heaten⟩
  obtain ⟨more, rfl, -⟩ := hblock.not_mem isLettered_endraw
  refine (wordTag?_eq_none_iff ho isLettered_endraw).2 fun hhas => hinner s hs hne ?_
  exact HasWordBlock.before_brace isLettered_endraw (by simpa using hhas) hne

end

/-- A sign at the end of what stands before a closing mark belongs to the closing. -/
theorem exists_sign_split (form : Closing) (hform : form.plus = true) (inner : List Char) :
    ∃ before sign, inner = before ++ sign ∧ sign ∈ form.signs ∧
      (sign = [] → ∀ c, before.getLast? = some c → isSign c = false) := by
  rcases List.eq_nil_or_concat inner with rfl | ⟨before, c, rfl⟩
  · exact ⟨[], [], rfl, Closing.mem_signs.2 (.inl rfl), by simp⟩
  · by_cases hc : isSign c = true
    · refine ⟨before, [c], List.concat_eq_append .., Closing.mem_signs.2 (.inr ?_), by simp⟩
      rcases isSign_cases hc with rfl | rfl
      · exact .inl rfl
      · exact .inr ⟨hform, rfl⟩
    · refine ⟨before.concat c, [], by simp, Closing.mem_signs.2 (.inl rfl), fun _ d hd => ?_⟩
      rw [List.concat_eq_append, List.getLast?_concat] at hd
      exact Option.some.inj hd ▸ Bool.eq_false_iff.2 hc

/-- No closing of a comment begins before the sign of the first one. -/
theorem closeMark?_before_sign {form : Closing} {s sign : List Char} (hne : s ≠ [])
    (hmark : ∀ u, u <:+ s ++ sign → u ≠ [] → ¬ ['#', '}'] <+: u ++ ['#', '}'] ++ rest)
    (hlast : sign = [] → ∀ c, s.getLast? = some c → isSign c = false) :
    closeMark? form ['#', '}'] (s ++ (sign ++ ['#', '}'] ++ rest)) = none := by
  refine Option.eq_none_iff_forall_ne_some.2 fun (taken, behind) hfound => ?_
  obtain ⟨sign', hsign', eaten', rfl, htext, -⟩ := closeMark?_eq_some hfound
  have hsigns : sign' = [] ∨ ∃ c, sign' = [c] ∧ isSign c = true := by
    rcases Closing.mem_signs.1 hsign' with rfl | rfl | ⟨-, rfl⟩ <;> simp [isSign]
  rcases hsigns with rfl | ⟨c, rfl, hc⟩
  · exact hmark _ (List.suffix_refl _) (by simp [hne]) ⟨eaten' ++ behind, by simpa using htext.symm⟩
  · obtain ⟨c', s, rfl⟩ := List.exists_cons_of_ne_nil hne
    obtain ⟨rfl, hbehind⟩ := List.cons.inj htext
    by_cases hend : s ++ sign = []
    · -- Then the sign would be the last character before the closing.
      obtain ⟨rfl, rfl⟩ := List.append_eq_nil_iff.1 hend
      rw [hlast rfl c' rfl] at hc
      cases hc
    · exact hmark _ (List.suffix_cons ..) hend ⟨eaten' ++ behind, by simpa using hbehind.symm⟩

/-- A comment that lies in a text ends at its own closing mark, and perhaps takes blanks behind it. -/
theorem firstTaken?_comment (form : Closing) (hform : form.plus = true) {inner : List Char}
    (hinner : ∀ s, s <:+ inner → s ≠ [] → ¬ ['#', '}'] <+: s ++ ['#', '}']) (rest : List Char) :
    ∃ before close eaten after, firstTaken? (closeMark? form ['#', '}']) (inner ++ ['#', '}'] ++ rest) =
        some (before, close, after) ∧ rest = eaten ++ after ∧ ∀ c ∈ eaten, Text.isBlank c = true := by
  obtain ⟨before, sign, rfl, hsign, hbefore⟩ := exists_sign_split form hform inner
  obtain ⟨eaten, after, hclose, hrest, heaten⟩ := @closeMark?_append form '#' ['}'] (by decide) _ hsign rest
  refine ⟨before, sign ++ ['#', '}'] ++ eaten, eaten, after, ?_, hrest, heaten⟩
  rw [firstTaken?_eq_firstFound?]
  refine firstFound?_eq_some_iff.2 ⟨sign ++ ['#', '}'] ++ rest, by simp, hclose, fun s hs hne => ?_⟩
  obtain ⟨more, rfl⟩ := hs
  refine closeMark?_before_sign hne (fun u hu hune hp => ?_) fun hnil c hc => hbefore hnil c ?_
  · refine hinner u (hu.trans ⟨more, by simp⟩) hune (List.prefix_of_prefix_length_le hp (List.prefix_append ..) ?_)
    rw [List.length_append]
    exact Nat.le_add_left ..
  · rw [List.getLast?_append_of_ne_nil _ hne, hc]

/-! ### From data to behind a piece -/

theorem AreData.endsWithPoint (h : AreData tokens) : endsWithPoint tokens = false := by
  unfold Template.endsWithPoint
  split
  · next hlast =>
    obtain ⟨text, htext⟩ := h _ (List.mem_of_getLast? hlast)
    cases htext
  · rfl

section
variable {size fuel line : Nat} {startsLine : Bool} {next : Cursor}

theorem tokens_data (h : dataMove o startsLine line cs = .go tokens next) :
    Cursor.tokens o size (fuel + 1) false ⟨.data startsLine, [], line, cs⟩ =
      tokens ++ next.tokens o size fuel (endsWithPoint tokens) := by
  have hmove : Cursor.move o size false ⟨.data startsLine, [], line, cs⟩ = .go tokens next := h
  rw [Cursor.tokens, hmove]

/-- The step from data through a raw region. -/
theorem dataMove_raw {before sign taken inner sign' close after : List Char}
    (hfirst : firstFound? (opening? o) cs = some (before, .raw, sign, taken, rest)) (hrest : rest ≠ [])
    (hclose : firstFound? (wordTag? o o.closing "endraw") rest = some (inner, sign', close, after)) :
    ∃ tokens line', AreData tokens ∧ dataMove o startsLine line cs = .go tokens (.behind line' close after) := by
  unfold dataMove rawMove
  rw [hfirst]
  simp only [if_neg hrest, hclose, Move.after]
  exact ⟨_, _, (areData_dataTokens _ _).append (areData_dataTokens _ _), rfl⟩

/-- The step from data through a comment. -/
theorem dataMove_comment {before sign taken inner close after : List Char}
    (hfirst : firstFound? (opening? o) cs = some (before, .comment, sign, taken, rest)) (hrest : rest ≠ [])
    (hclose : firstTaken? (closeMark? o.closing o.delimiters.commentEnd) rest = some (inner, close, after)) :
    ∃ tokens line', AreData tokens ∧ dataMove o startsLine line cs = .go tokens (.behind line' close after) := by
  unfold dataMove commentMove
  rw [hfirst]
  simp only [if_neg hrest, hclose, Move.after, List.append_nil]
  exact ⟨_, _, areData_dataTokens _ _, rfl⟩

/-- A step that leaves data only leads behind what is no directive. -/
theorem isReadOn_data {line' : Nat} {close eaten after : List Char} (hdata : AreData tokens)
    (hmove : dataMove o startsLine line cs = .go tokens (.behind line' close after))
    (hpiece : piece.IsPlain directives) (hrest : rest = eaten ++ after) (heaten : ∀ c ∈ eaten, Text.isBlank c = true)
    (hfuel : rest.length < fuel) :
    IsReadOn o directives size piece rest
      (Cursor.tokens o size (fuel + 1) false ⟨.data startsLine, [], line, cs⟩) := by
  have hafter : after.length < fuel := by
    rw [hrest, List.length_append] at hfuel
    exact Nat.lt_of_le_of_lt (Nat.le_add_left ..) hfuel
  refine .inl ⟨tokens, line', close, eaten, after, fuel, hrest, heaten, hafter, hdata.covers hpiece, ?_⟩
  rw [tokens_data hmove, hdata.endsWithPoint]

section
variable (ho : o.delimiters = .standard) (hcalm : Calm ['{'] d)
include ho hcalm

theorem isReadOn_raw {cs block inner block' : List Char} (hblock : IsWordBlock ⟨false, false⟩ "raw".toList block)
    (hblock' : IsWordBlock o.closing "endraw".toList block')
    (hinner : ∀ s, s <:+ inner → s ≠ [] → ¬ HasWordBlock o.closing "endraw".toList s)
    (hfuel : rest.length < fuel) :
    IsReadOn o directives size (.kept cs) rest
      (Cursor.tokens o size (fuel + 1) false
        ⟨.data startsLine, [], line, d ++ (block ++ inner ++ block') ++ rest⟩) := by
  obtain ⟨sign, eaten, after, htag, hsplit, heaten⟩ :=
    wordTag?_append ho isLettered_raw hblock (inner ++ block' ++ rest)
  obtain ⟨more, hmore, -⟩ := hblock'.not_mem isLettered_endraw
  obtain ⟨first, hfirst, -⟩ := hblock.not_mem isLettered_raw
  -- The blanks behind the opening are the first of what is kept.
  obtain ⟨inner', rfl, rfl⟩ : ∃ inner', inner = eaten ++ inner' ∧ after = inner' ++ block' ++ rest := by
    rw [hmore] at hsplit ⊢
    have hbehind : inner ++ '{' :: (more ++ ['}'] ++ rest) = eaten ++ after := by simpa using hsplit
    obtain ⟨inner', hinner', hafter⟩ := exists_of_blanks_append hbehind heaten
    exact ⟨inner', hinner', by simpa using hafter⟩
  obtain ⟨sign', eaten', after', hend, rfl, heaten'⟩ :=
    firstFound?_raw ho hblock' (fun s hs => hinner s (hs.trans (List.suffix_append ..))) rest
  have hopen : opening? o (block ++ (eaten ++ inner') ++ block' ++ (eaten' ++ after')) =
      some (.raw, sign, block ++ eaten, inner' ++ block' ++ (eaten' ++ after')) := by
    have hraw := opening?_raw htag
    simpa using hraw
  have hfound := firstFound?_calm ho hcalm ⟨first ++ ['}'] ++ (eaten ++ inner') ++ block', by simp [hfirst]⟩ hopen
  obtain ⟨tokens, line', hdata, hmove⟩ := dataMove_raw hfound (by simp [hmore]) hend
  exact isReadOn_data hdata hmove (isPlain_kept _) rfl heaten' hfuel

theorem isReadOn_comment {cs inner : List Char} (hinner : ∀ s, s <:+ inner → s ≠ [] → ¬ ['#', '}'] <+: s ++ ['#', '}'])
    (hfuel : rest.length < fuel) :
    IsReadOn o directives size (.kept cs) rest
      (Cursor.tokens o size (fuel + 1) false
        ⟨.data startsLine, [], line, d ++ (['{', '#'] ++ inner ++ ['#', '}']) ++ rest⟩) := by
  have hraw : ¬ HasWordBlock ⟨false, false⟩ "raw".toList (Opening.comment.mark ++ (inner ++ ['#', '}'] ++ rest)) := by
    rintro ⟨_, ⟨_, -, _, _, -, _, -, rfl⟩, hp⟩
    obtain ⟨-, hp⟩ := List.cons_prefix_cons.1 hp
    exact absurd (List.cons_prefix_cons.1 hp).1 (by decide)
  have hopen : opening? o (['{', '#'] ++ inner ++ ['#', '}'] ++ rest) = some (.comment,
      (cutSign (inner ++ ['#', '}'] ++ rest)).1, _, (cutSign (inner ++ ['#', '}'] ++ rest)).2) :=
    opening?_mark ho (by decide) hraw
  have hfound := firstFound?_calm ho hcalm (by exact ⟨_, rfl⟩) hopen
  -- A sign behind the opening is none of what stands in the comment.
  obtain ⟨inner', hinner', hcut⟩ : ∃ inner', inner' <:+ inner ∧
      (cutSign (inner ++ ['#', '}'] ++ rest)).2 = inner' ++ ['#', '}'] ++ rest := by
    cases inner with
    | nil => exact ⟨[], List.suffix_refl _, rfl⟩
    | cons c inner =>
      unfold cutSign
      simp only [List.cons_append]
      split
      · exact ⟨inner, List.suffix_cons .., rfl⟩
      · exact ⟨c :: inner, List.suffix_refl _, rfl⟩
  obtain ⟨before, close, eaten, after, hclose, rfl, heaten⟩ :=
    firstTaken?_comment o.closing rfl (fun s hs => hinner s (hs.trans hinner')) rest
  rw [← hcut] at hclose
  have hend : firstTaken? (closeMark? o.closing o.delimiters.commentEnd)
      (cutSign (inner ++ ['#', '}'] ++ (eaten ++ after))).2 = some (before, close, after) := by
    rw [ho]
    exact hclose
  obtain ⟨tokens, line', hdata, hmove⟩ := dataMove_comment hfound (by rw [hcut]; simp) hend
  exact isReadOn_data hdata hmove (isPlain_kept _) rfl heaten hfuel

end

/-! ### Tags -/

/-- The token of what opens a tag. -/
def Opening.kind : Opening → TokenKind
  | .variable_ => .variableBegin
  | _ => .blockBegin

theorem Opening.kind_cases (opening : Opening) : opening.kind = .blockBegin ∨ opening.kind = .variableBegin := by
  cases opening
  · exact .inl rfl
  · exact .inl rfl
  · exact .inr rfl
  · exact .inl rfl

/-- From data the lexer comes into the tag that is found first. -/
theorem tokens_into_tag (size fuel line : Nat) (startsLine : Bool) {opening : Opening} {before sign taken : List Char}
    (hkind : opening = .block ∨ opening = .variable_)
    (hfirst : firstFound? (opening? o) cs = some (before, opening, sign, taken, rest)) :
    ∃ data here line', AreData data ∧ Cursor.tokens o size (fuel + 1) false ⟨.data startsLine, [], line, cs⟩ =
      data ++ ⟨here, opening.kind⟩ :: Cursor.tokens o size fuel false ⟨opening.mode, [], line', rest⟩ := by
  obtain ⟨data, here, line', hdata, hmove⟩ : ∃ data here line', AreData data ∧
      dataMove o startsLine line cs = .go (data ++ [⟨here, opening.kind⟩]) ⟨opening.mode, [], line', rest⟩ := by
    unfold dataMove
    rw [hfirst]
    rcases hkind with rfl | rfl <;> exact ⟨_, _, _, areData_dataTokens _ _, rfl⟩
  have hpoint : endsWithPoint (data ++ [⟨here, opening.kind⟩]) = false := by
    unfold endsWithPoint
    rw [List.getLast?_concat]
    cases opening <;> rfl
  refine ⟨data, here, line', hdata, ?_⟩
  rw [tokens_data hmove, hpoint, List.append_assoc, List.singleton_append]

/-- A tag that is read up to its closing stands for a piece. -/
theorem isReadOn_closed {data inner : List Token} {first last : Token} {close eaten after : List Char}
    (hdata : AreData data) (hcovers : Covers directives piece (first :: (inner ++ [last])))
    (hrest : rest = eaten ++ after) (heaten : ∀ c ∈ eaten, Text.isBlank c = true) (hafter : after.length < fuel)
    (htokens : tokens = data ++ first :: (inner ++ last :: (Cursor.behind line close after).tokens o size fuel false)) :
    IsReadOn o directives size piece rest tokens := by
  refine .inl ⟨_, line, close, eaten, after, fuel, hrest, heaten, hafter, hdata.before hcovers, ?_⟩
  rw [htokens]
  simp

/-- No block that holds a word alone begins a rewritten tag. -/
theorem TagText.IsTag.not_hasWordBlock_rewritten {t : TagText} (ht : t.IsTag .standard names) (hname : IsWord t.name)
    {form : Closing} {word : List Char} (hword : IsLettered word) (rest : List Char) :
    ¬ HasWordBlock form word (t.rewritten ++ rest) := by
  rintro ⟨block, hblock, hp⟩
  obtain ⟨inner, rfl, -, -, hquote⟩ := hblock.not_mem hword
  obtain ⟨sign, hsign, hopening⟩ := ht.opening
  have htext : t.rewritten ++ rest = (['{', '%'] ++ sign ++ ' ' :: t.name ++ [' ']) ++
      '"' :: (literalBody (Text.strip t.markup) ++ '"' :: ' ' :: (t.closing ++ rest)) := by
    have hliteral := literal_eq (Text.strip t.markup) (' ' :: (t.closing ++ rest))
    simp [TagText.rewritten, hopening, Delimiters.standard, hliteral]
  rw [htext] at hp
  -- The block would end before the literal, where no closing brace stands.
  have hbefore := prefix_of_not_mem hp (by simpa using hquote)
  have hbrace : '}' ∉ t.name := hname.isRun.not_mem (by decide)
  have hmem := hbefore.mem (show '}' ∈ '{' :: inner ++ ['}'] by simp)
  rcases sign_cases hsign with rfl | rfl | rfl <;> simp [hbrace] at hmem

/-- A block in which a name stands first has this for its first token. -/
theorem tokens_word (ho : o.delimiters = .standard) (size line : Nat) (afterPoint : Bool) {name w : List Char}
    (hname : IsWord name) (h : BeginsWord name w) (tail : List Char) (hfuel : 2 ≤ fuel) :
    ∃ line' behind, Cursor.tokens o size fuel afterPoint ⟨.block, [], line, w ++ tail⟩ =
      ⟨line', .name (String.ofList name)⟩ :: behind := by
  obtain ⟨blanks, e, more, rfl, hblanks, he⟩ := h
  rw [List.append_assoc, List.cons_append]
  generalize more ++ tail = more
  obtain ⟨fuel, rfl⟩ := Nat.exists_eq_add_of_le' hfuel
  have hends : ∀ c, (e :: more).head? = some c → Text.isWordChar c = false := by
    intro c hc
    exact Option.some.inj hc ▸ he
  cases blanks with
  | nil => exact ⟨_, _, tokens_block size afterPoint (tagMove_name ho size afterPoint _ hname rfl hends) _⟩
  | cons b blanks =>
    have hhead : ∀ c, (name ++ e :: more).head? = some c → Text.isBlank c = false := by
      obtain ⟨first, letters, rfl⟩ := hname.exists_cons
      exact fun c hc => (hname.head c hc).1
    obtain ⟨-, hdrop⟩ := Directive.span_run (name ++ e :: more) hblanks hhead
    rw [List.append_assoc, List.cons_append,
      tokens_block size afterPoint (tagMove_blanks ho size afterPoint _ rfl (hblanks b (List.mem_cons_self ..)))]
    rw [List.cons_append] at hdrop
    simp only [hdrop, List.nil_append]
    exact ⟨_, _, tokens_block size _ (tagMove_name ho size _ _ hname rfl hends) _⟩

/-- A tag begins with a name if it is a block, and the name stands first behind the mark and the sign. -/
theorem beginsBlock_mark_iff {opening : Opening} (hkind : opening = .block ∨ opening = .variable_) {name v : List Char}
    (hname : IsRun name) :
    BeginsBlock name (opening.mark ++ v) ↔ opening = .block ∧ BeginsWord name (cutSign v).2 := by
  constructor
  · rintro ⟨sign, hsign, blanks, e, more, hblanks, he, hmark⟩
    rcases hkind with rfl | rfl
    · have hv : v = sign ++ (blanks ++ name ++ e :: more) := by
        simpa [Opening.mark, Delimiters.standard] using hmark
      refine ⟨rfl, blanks, e, more, ?_, hblanks, he⟩
      rw [hv, cutSign_word hname hsign hblanks]
    · exact absurd (List.cons.inj (List.cons.inj hmark).2).1 (by decide)
  · rintro ⟨rfl, blanks, e, more, hcut, hblanks, he⟩
    obtain ⟨hsplit, hsign⟩ := cutSign_eq v
    refine ⟨(cutSign v).1, hsign, blanks, e, more, hblanks, he, ?_⟩
    conv => lhs; rw [hsplit, hcut]
    simp [Opening.mark, Delimiters.standard]

/-- The tokens of a tag write what the tag begins with, if the first of them is the name that stands first in it. -/
theorem writes_tag {opening : Opening} (hkind : opening = .block ∨ opening = .variable_) {cs v : List Char}
    (hwords : ∀ n ∈ directives, (Piece.ordinary cs).IsGlued n → IsWord n.toList)
    (hbegins : ∀ name, IsRun name → (BeginsBlock name (opening.mark ++ v) ↔ BeginsBlock name cs))
    {inner more : List Token} {here : Nat} {last : Token} (hlast : last.kind = .blockEnd ∨ last.kind = .variableEnd)
    (hhead : ∀ t ∈ inner.head?, ∀ n, t.kind = .name n → IsRun n.toList ∧ BeginsWord n.toList (cutSign v).2)
    (hword : opening = .block → ∀ n, IsWord n.toList → BeginsWord n.toList (cutSign v).2 →
      ∃ t ∈ inner.head?, t.kind = .name n) :
    Writes directives [.ordinary cs]
      (directiveHere? directives (⟨here, opening.kind⟩ :: (inner ++ last :: more))).toList := by
  cases hhere : directiveHere? directives (⟨here, opening.kind⟩ :: (inner ++ last :: more)) with
  | none =>
    refine .plain ⟨by simp, fun n hn hglued => ?_⟩ .nil
    have hn' : IsWord n.toList := hwords n hn hglued
    obtain ⟨rfl, hfirst⟩ := (beginsBlock_mark_iff hkind hn'.isRun).1 ((hbegins _ hn'.isRun).2 hglued)
    obtain ⟨t, ht, hname⟩ := hword rfl n hn' hfirst
    obtain ⟨line, kind⟩ := t
    obtain ⟨inner, rfl⟩ := List.head?_eq_some_iff.1 ht
    obtain rfl : kind = .name n := hname
    simp [directiveHere?, Opening.kind, hn] at hhere
  | some found =>
    obtain ⟨n, behind⟩ := found
    obtain ⟨hopens, hn, t, ht, hname⟩ := directiveHere?_eq_some hhere hlast
    have hblock : opening = .block := by
      rcases hkind with rfl | rfl
      · rfl
      · cases hopens
    obtain ⟨hrun, hfirst⟩ := hhead t ht n hname
    have hbegun := (beginsBlock_mark_iff hkind hrun).2 ⟨hblock, hfirst⟩
    exact .glued hn ((hbegins _ hrun).1 hbegun) .nil

/-- The tokens of a rewritten tag stand for the directive. -/
theorem covers_directive {t : TagText} (hdirective : String.ofList t.name ∈ directives) (here line : Nat) :
    Covers directives (.directive t) (⟨here, .blockBegin⟩ :: ([⟨line, .name (String.ofList t.name)⟩,
      ⟨line, .string (String.ofList (Text.strip t.markup))⟩] ++ [⟨line, .blockEnd⟩])) := by
  refine covers_tag (.inl rfl) (by simp [TokenKind.isInner]) (.inl rfl) fun rest => ?_
  simp only [directiveHere?, List.cons_append, List.nil_append, if_pos hdirective, Option.toList_some]
  exact .directive hdirective .nil

theorem TagText.IsTag.seven_le_length_rewritten {t : TagText} (ht : t.IsTag .standard names) :
    7 ≤ t.rewritten.length := by
  obtain ⟨sign, -, hopening⟩ := ht.opening
  obtain ⟨sign', -, hclosing⟩ := ht.closing
  simp only [TagText.rewritten, hopening, hclosing, Delimiters.standard, List.length_append, List.length_cons]
  omega

/-- A rewritten tag opens as a block; behind its opening stand its name, its literal and its closing. -/
theorem opening?_rewritten (ho : o.delimiters = .standard) {t : TagText} (ht : t.IsTag .standard names)
    (hname : IsWord t.name) (rest : List Char) :
    ∃ sign taken, opening? o (t.rewritten ++ rest) = some (.block, sign, taken,
      ' ' :: (t.name ++ ' ' :: (Text.literal .transparent (Text.strip t.markup) ++ ' ' :: (t.closing ++ rest)))) := by
  obtain ⟨sign, hsign, hopening⟩ := ht.opening
  generalize hinner : ' ' :: (t.name ++ ' ' :: (Text.literal .transparent (Text.strip t.markup) ++
    ' ' :: (t.closing ++ rest))) = inner
  have htext : t.rewritten ++ rest = Opening.block.mark ++ (sign ++ inner) := by
    rw [← hinner]
    simp [TagText.rewritten, hopening, Opening.mark]
  have hcut : cutSign (sign ++ inner) = (sign, inner) := by
    refine cutSign_append hsign fun c hc => ?_
    rw [← hinner] at hc
    obtain rfl := Option.some.inj hc
    decide
  have hnot : ¬ HasWordBlock ⟨false, false⟩ "raw".toList (t.rewritten ++ rest) :=
    ht.not_hasWordBlock_rewritten hname isLettered_raw rest
  rw [htext] at hnot ⊢
  have hopen := opening?_mark ho (by decide) hnot
  rw [hcut] at hopen
  exact ⟨_, _, hopen⟩

section
variable (ho : o.delimiters = .standard) (hcalm : Calm ['{'] d)
include ho

/-- A tag that ends with a brace opens with its own mark, whatever stands behind it. -/
theorem opening?_tag {opening : Opening} (hkind : opening = .block ∨ opening = .variable_) {v : List Char} (hv : v ≠ [])
    (hraw : ¬ HasWordBlock ⟨false, false⟩ "raw".toList (opening.mark ++ v))
    (hends : ∃ before, opening.mark ++ v = before ++ ['}']) (rest : List Char) :
    opening? o (opening.mark ++ v ++ rest) =
      some (opening, (cutSign v).1, opening.mark ++ (cutSign v).1, (cutSign v).2 ++ rest) := by
  have hopening : opening ≠ .raw := by rcases hkind with rfl | rfl <;> decide
  have hnot : ¬ HasWordBlock ⟨false, false⟩ "raw".toList (opening.mark ++ (v ++ rest)) := by
    obtain ⟨before, hbefore⟩ := hends
    rw [← List.append_assoc]
    rw [hbefore] at hraw ⊢
    intro hhas
    exact hraw (HasWordBlock.up_to_brace isLettered_raw (by simpa using hhas))
  have hopen := opening?_mark ho hopening hnot
  rwa [← List.append_assoc, cutSign_append_right hv rest] at hopen

include hcalm

theorem isReadOn_directive {t : TagText} (ht : t.IsTag .standard names) (hname : IsWord t.name)
    (hdirective : String.ofList t.name ∈ directives) (hfuel : (d ++ t.rewritten ++ rest).length ≤ fuel) :
    IsReadOn o directives size (.directive t) rest
      (Cursor.tokens o size (fuel + 1) false ⟨.data startsLine, [], line, d ++ t.rewritten ++ rest⟩) := by
  obtain ⟨sign, taken, hopen⟩ := opening?_rewritten ho ht hname rest
  have hlies : (Piece.directive t).Lies o names t.rewritten := .directive ht hname
  have hfound := firstFound?_calm ho hcalm hlies.exists_cons hopen
  obtain ⟨data, here, line', hdata, hinto⟩ := tokens_into_tag size fuel line startsLine (.inl rfl) hfound
  -- The tag has seven characters and more, and takes six steps.
  obtain ⟨fuel, rfl, hlt⟩ : ∃ fuel', fuel = fuel' + 6 ∧ rest.length < fuel' := by
    have hlength := ht.seven_le_length_rewritten
    rw [List.length_append, List.length_append] at hfuel
    refine ⟨fuel - 6, ?_, ?_⟩ <;> omega
  obtain ⟨eaten, after, hrest, heaten, htokens⟩ :=
    tokens_tag_behind ho size false (Text.strip t.markup) hname (ht.closes rest) line' fuel
  have hafter : after.length < fuel := by
    rw [hrest, List.length_append] at hlt
    omega
  have hall : Cursor.tokens o size (fuel + 6 + 1) false ⟨.data startsLine, [], line, d ++ t.rewritten ++ rest⟩ =
      data ++ ⟨here, .blockBegin⟩ :: ([⟨line', .name (String.ofList t.name)⟩,
        ⟨line', .string (String.ofList (Text.strip t.markup))⟩] ++ ⟨line', .blockEnd⟩ ::
          (Cursor.behind line' (t.closing ++ eaten) after).tokens o size fuel false) := by
    rw [hinto, show Opening.block.mode = .block from rfl, htokens]
    rfl
  exact isReadOn_closed hdata (covers_directive hdirective _ _) hrest heaten hafter hall

theorem isReadOn_tag {opening : Opening} {cs v : List Char} (hkind : opening = .block ∨ opening = .variable_)
    (hwords : ∀ n ∈ directives, (Piece.ordinary cs).IsGlued n → IsWord n.toList)
    (hraw : ¬ HasWordBlock ⟨false, false⟩ "raw".toList (opening.mark ++ v))
    (hinside : Inside opening.mode [] (cutSign v).2)
    (hbegins : ∀ name, IsRun name → (BeginsBlock name (opening.mark ++ v) ↔ BeginsBlock name cs))
    (hfuel : (d ++ (opening.mark ++ v) ++ rest).length ≤ fuel) :
    IsReadOn o directives size (.ordinary cs) rest
      (Cursor.tokens o size (fuel + 1) false ⟨.data startsLine, [], line, d ++ (opening.mark ++ v) ++ rest⟩) := by
  have hlies : (Piece.ordinary cs).Lies o [] (opening.mark ++ v) := .tag hkind hraw hinside hbegins
  have hv : v ≠ [] := by
    rintro rfl
    exact hinside.ne_nil rfl
  have hopen := opening?_tag ho hkind hv hraw hlies.exists_concat rest
  have hfound := firstFound?_calm ho hcalm hlies.exists_cons hopen
  obtain ⟨data, here, line', hdata, hinto⟩ := tokens_into_tag size fuel line startsLine hkind hfound
  have hlength := hinside.length_le
  have hlt : ((cutSign v).2 ++ rest).length < fuel := by
    have hsplit := congrArg List.length (cutSign_eq v).1
    simp only [List.length_append, Opening.length_mark] at hfuel hsplit ⊢
    omega
  obtain ⟨inner, hinner, hhead, hall⟩ := @tokens_inside _ _ ho size fuel false
    ⟨opening.mode, [], line', (cutSign v).2 ++ rest⟩ opening.mode_ne_data hinside _ rfl hlt
  have hfirst := opening.kind_cases
  have hlast := opening.mode.endKind_cases
  rcases hall with ⟨line'', taken, eaten, after, fuel', hrest, heaten, hafter, htokens⟩ | ⟨line'', fault, htokens⟩
  · refine isReadOn_closed hdata (covers_tag hfirst hinner hlast fun more => ?_) hrest heaten hafter
      (hinto.trans (by rw [htokens]))
    refine writes_tag hkind hwords hbegins hlast hhead ?_
    -- What the lexer finds first is the name that stands there.
    rintro rfl n hname hfirst
    obtain ⟨line₃, behind, hword⟩ := tokens_word ho size line' false hname hfirst rest
      (show 2 ≤ fuel by rw [List.length_append] at hlt; omega)
    rw [String.ofList_toList] at hword
    have hsame := hword.symm.trans htokens
    cases inner with
    | nil => cases (List.cons.inj hsame).1
    | cons t inner =>
      obtain ⟨rfl, -⟩ := List.cons.inj hsame
      exact ⟨_, rfl, rfl⟩
  · refine .inr ?_
    rw [hinto, htokens]
    refine ⟨hdata.formed (.opening hfirst (formed_inner hinner (.last (.inr ⟨fault, rfl⟩)))),
      ⟨line'', .broken fault⟩, fault, ?_, rfl⟩
    rw [← List.cons_append, ← List.append_assoc, List.getLast?_concat]

/-- From data, the lexer comes to behind the next piece, or does not get through it. -/
theorem isReadOn_next (hnames : ∀ name ∈ names, String.ofList name ∈ directives)
    (hwords : ∀ n ∈ directives, piece.IsGlued n → IsWord n.toList) (hlies : piece.Lies o names body)
    (hfuel : (d ++ body ++ rest).length ≤ fuel) :
    IsReadOn o directives size piece rest
      (Cursor.tokens o size (fuel + 1) false ⟨.data startsLine, [], line, d ++ body ++ rest⟩) := by
  have hlt : rest.length < fuel := by
    obtain ⟨more, rfl⟩ := hlies.exists_cons
    simp only [List.length_append, List.length_cons] at hfuel
    omega
  cases hlies with
  | raw hblock hblock' hinner => exact isReadOn_raw ho hcalm hblock hblock' hinner hlt
  | comment hinner => exact isReadOn_comment ho hcalm hinner hlt
  | directive ht hname => exact isReadOn_directive ho hcalm ht hname (hnames _ ht.name) hfuel
  | tag hkind hraw hinside hbegins => exact isReadOn_tag ho hcalm hkind hwords hraw hinside hbegins hfuel

end

end

/-! ### All the pieces of a text -/

/-- Blanks at the start of a text belong to its first data. -/
theorem Laid.behind_blanks {eaten after : List Char} (h : Laid o names pieces (eaten ++ after))
    (heaten : ∀ c ∈ eaten, Text.isBlank c = true) : Laid o names pieces after := by
  generalize htext : eaten ++ after = text at h
  cases h with
  | data hcalm =>
    subst htext
    exact .data (hcalm.suffix (List.suffix_append ..))
  | @next cs d body rest _ _ hcalm hlies h =>
    obtain ⟨more, hmore⟩ := hlies.exists_cons
    rw [hmore, List.append_assoc, List.cons_append] at htext
    obtain ⟨d', rfl, rfl⟩ := exists_of_blanks_append htext.symm heaten
    have hnext := @Laid.next _ _ cs _ _ _ _ _ (hcalm.suffix (List.suffix_append ..)) hlies h
    rw [hmore] at hnext
    simpa using hnext

/-- What the tokens of a text in which pieces lie are, up to its end: cut off, or in order, with the blocks of
directives that the pieces write. -/
def AreOf (directives : List String) (pieces : List Piece) (tokens : List Token) : Prop :=
  IsCutOff tokens ∨ ((∀ t ∈ tokens, ¬ t.EndsText) ∧ ∀ last : Token, last.EndsText →
    Formed false (tokens ++ [last]) ∧ Writes directives pieces (directiveBlocks directives (tokens ++ [last])))

theorem areOf_data (h : AreData tokens) : AreOf directives [.data cs] tokens := by
  refine .inr ⟨fun _ => h.goesOn, fun last hlast => ⟨h.formed (.last hlast), ?_⟩⟩
  rw [h.directiveBlocks_append, directiveBlocks, directiveHere?_eq_none (by rcases hlast with h | ⟨_, h⟩ <;> simp [h])]
  exact .plain (isPlain_data cs) .nil

theorem AreOf.behind {covering : List Token} (hcovers : Covers directives piece covering)
    (h : AreOf directives pieces tokens) : AreOf directives (.data cs :: piece :: pieces) (covering ++ tokens) := by
  rcases h with ⟨hformed, last, fault, hlast, hbroken⟩ | ⟨hgoes, h⟩
  · refine .inl ⟨hcovers.formed hformed, last, fault, ?_, hbroken⟩
    rw [List.getLast?_append, hlast]
    rfl
  · refine .inr ⟨fun t ht => (List.mem_append.1 ht).elim (hcovers.goesOn t) (hgoes t), fun last hlast => ?_⟩
    obtain ⟨hformed, hwrites⟩ := h last hlast
    obtain ⟨blocks, hblocks, hall⟩ := hcovers.blocks (tokens ++ [last])
    rw [List.append_assoc, hall]
    exact ⟨hcovers.formed hformed, .plain (isPlain_data cs) (hblocks.append hwrites)⟩

section
variable (ho : o.delimiters = .standard) (hnames : ∀ name ∈ names, String.ofList name ∈ directives)
include ho hnames

/-- The tokens from data on, piece by piece. -/
theorem areOf_tokens {size fuel line : Nat} {startsLine : Bool} (h : Laid o names pieces cs)
    (hwords : ∀ n ∈ directives, ∀ piece ∈ pieces, piece.IsGlued n → IsWord n.toList) (hfuel : cs.length < fuel) :
    AreOf directives pieces (Cursor.tokens o size fuel false ⟨.data startsLine, [], line, cs⟩) := by
  induction hlength : pieces.length using Nat.strong_induction_on generalizing pieces cs fuel line startsLine with
  | _ length ih =>
    obtain ⟨fuel, rfl⟩ := Nat.exists_eq_add_one_of_ne_zero (Nat.ne_zero_of_lt hfuel)
    cases h with
    | data hcalm =>
      have hnone : firstFound? (opening? o) cs = none := firstFound?_eq_none_iff.2 fun s hs => by
        rw [opening?_eq_none_iff ho]
        intro hopens
        refine hcalm s hs ?_ (by rwa [List.append_nil])
        rintro rfl
        obtain ⟨c, -, hp⟩ := hopens
        cases List.prefix_nil.1 hp
      have hmove : Cursor.move o size false ⟨.data startsLine, [], line, cs⟩ = .halt (dataTokens o line cs) := by
        show dataMove o startsLine line cs = _
        unfold dataMove
        rw [hnone]
      rw [Cursor.tokens, hmove]
      exact areOf_data (areData_dataTokens line cs)
    | @next _ d body rest piece pieces hcalm hlies h =>
      have hread : IsReadOn o directives size piece rest
          (Cursor.tokens o size (fuel + 1) false ⟨.data startsLine, [], line, d ++ body ++ rest⟩) :=
        isReadOn_next ho hcalm hnames (fun n hn => hwords n hn piece (by simp)) hlies (Nat.le_of_lt_succ hfuel)
      rcases hread with ⟨covering, line', close, eaten, after, fuel', rfl, heaten, hafter, hcovers, htokens⟩ | hcut
      · have hless : pieces.length < length := by
          rw [← hlength, List.length_cons, List.length_cons]
          omega
        rw [htokens]
        have hbehind : ∀ n ∈ directives, ∀ p ∈ pieces, p.IsGlued n → IsWord n.toList :=
          fun n hn p hp => hwords n hn p (by simp [hp])
        exact .behind hcovers (ih pieces.length hless (h.behind_blanks heaten) hbehind hafter rfl)
      · exact .inl hcut

/-- The tokens of a text in which pieces lie are in order, and the last of them ends it; and unless the text cannot
be read, the blocks of directives among them are those that the pieces write. -/
theorem tokenize_laid (h : Laid o names pieces cs)
    (hwords : ∀ n ∈ directives, ∀ piece ∈ pieces, piece.IsGlued n → IsWord n.toList) :
    ∃ last, (tokenize o cs).getLast? = some last ∧ last.EndsText ∧ Formed false (tokenize o cs) ∧
      ((∃ fault, last.kind = .broken fault) ∨
        Writes directives pieces (directiveBlocks directives (tokenize o cs))) := by
  have hall : AreOf directives pieces (Cursor.tokens o (sourceText o.keepLastLineEnd cs).length
      ((sourceText o.keepLastLineEnd cs).length + 1) false ⟨.data true, [], 1, sourceText o.keepLastLineEnd cs⟩) :=
    areOf_tokens ho hnames (h.sourceText o.keepLastLineEnd) hwords (Nat.lt_succ_self _)
  unfold tokenize
  simp only
  generalize Cursor.tokens o _ _ false _ = tokens at hall
  rcases hall with ⟨hformed, last, fault, hlast, hbroken⟩ | ⟨hgoes, hrest⟩
  · rw [hlast]
    simp only [hbroken]
    exact ⟨last, hlast, .inr ⟨fault, hbroken⟩, hformed, .inl ⟨fault, hbroken⟩⟩
  · have hfinish (line : Nat) : Token.EndsText ⟨line, .finish⟩ := .inl rfl
    split
    · next hnone =>
      obtain rfl := List.getLast?_eq_none_iff.1 hnone
      exact ⟨_, rfl, hfinish 1, (hrest _ (hfinish 1)).1, .inr (hrest _ (hfinish 1)).2⟩
    · next last hlast =>
      split
      · next fault hfault => exact absurd (.inr ⟨fault, hfault⟩) (hgoes last (List.mem_of_getLast? hlast))
      · obtain ⟨hformed, hwrites⟩ := hrest _ (hfinish last.line)
        exact ⟨_, List.getLast?_concat, hfinish _, hformed, .inr hwrites⟩

end

end Transclusion.Template

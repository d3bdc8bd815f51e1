import Mathlib.Data.List.Forall2
import Transclusion.Proofs.Insides
import Transclusion.Proofs.Rewriting

/-! Where directive tags stand.

Two readers look for the tags of a text. The lexer knows what it stands in: data,
an expression or a block, a raw region, a comment. The scan that rewrites
directive tags knows nothing but the place that it has come to. `Tiles` is the
walk of the lexer through a text, in which a directive tag ends at its first
closing. Where nothing opens for the lexer, nothing begins for the scan, and raw
regions and comments are the same for both but for blanks behind them. So the
scan goes astray only in the other tags, whose literals it does not know
(`rewriteTags_tiles`), and even there it matters only if it meets a directive
(`rewriteTags_passed`). -/
namespace Transclusion.Template

variable {o : Options} {names : List (List Char)} {cs taken rest : List Char}

/-! ### Raw regions and comments -/

/-- No block begins with a blank. -/
theorem wordBlocks_blank {word : List Char} {c : Char} (hc : Text.isBlank c = true) :
    wordBlocks .standard word (c :: cs) = [] := by
  rw [List.eq_nil_iff_forall_not_mem]
  rintro ⟨taken, rest⟩ hmem
  obtain ⟨heq, ⟨more, rfl⟩, -⟩ := mem_wordBlocks hmem
  obtain ⟨rfl, -⟩ : c = '{' ∧ _ := List.cons.inj heq
  exact absurd hc (by decide)

section
variable (ho : o.delimiters = .standard)
include ho

/-- Where the lexer finds a block that holds a word, the scan finds it in one way. -/
theorem wordBlocks_of_wordTag? {form : Closing} {word : String} {sign : List Char}
    (h : wordTag? o form word cs = some (sign, taken, rest)) :
    ∃ block eaten, wordBlocks .standard word.toList cs = [(block, eaten ++ rest)] ∧ taken = block ++ eaten ∧
      ∀ c ∈ eaten, Text.isBlank c = true := by
  rw [wordTag?_eq ho] at h
  simp only [Option.bind_eq_bind, Option.bind_eq_some_iff, Prod.exists, Option.some.injEq, Prod.mk.injEq] at h
  obtain ⟨start, behind, hstart, w, behind', hword, close, _, hclose, rfl, rfl, rfl⟩ := h
  obtain ⟨mark, eaten, hmark, rfl, heaten⟩ := signedMark?_of_closeMark? (by decide) hclose
  refine ⟨start ++ (cutSign behind).1 ++ (cutSign behind).2.takeWhile Text.isBlank ++ w ++
    behind'.takeWhile Text.isBlank ++ mark, eaten, ?_, by simp, heaten⟩
  unfold wordBlocks
  obtain ⟨rfl, -⟩ := mark?_eq hword
  simp only [Option.bind_eq_bind, hstart, Option.bind_some, hword]
  rw [filterMap_blankCuts]
  · show (Option.map _ (signedMark? ['%', '}'] _)).toList = _
    rw [hmark]
    rfl
  · intro blanks c rest hc
    exact Option.map_eq_none_iff.2 (signedMark?_blank (by decide) hc)

/-- Where the lexer finds no block that holds a word, the scan finds none. -/
theorem wordBlocks_of_not_wordTag? {form : Closing} (hform : form.plus = true) {word : String}
    (h : wordTag? o form word cs = none) : wordBlocks .standard word.toList cs = [] := by
  unfold wordTag? openMark? at h
  rw [ho] at h
  unfold wordBlocks
  cases hstart : mark? Delimiters.standard.blockStart cs with
  | none => rfl
  | some found =>
    cases hword : mark? word.toList ((cutSign found.2).2.dropWhile Text.isBlank) with
    | none => simp [hword]
    | some found' =>
      simp only [hstart, hword, Option.bind_eq_bind, Option.bind_some] at h ⊢
      rw [List.findSome?_eq_none_iff] at h
      rw [List.filterMap_eq_nil_iff]
      intro cut hcut
      cases hmark : signedMark? Delimiters.standard.blockEnd cut.2 with
      | none => rfl
      | some close =>
        obtain ⟨more, after, hclose, -⟩ := closeMark?_of_signedMark? form hform hmark
        have hnone := h cut hcut
        rw [hclose] at hnone
        cases hnone

/-- Where the lexer finds the end of a raw region, the scan finds it. -/
theorem firstTaken?_of_firstFound? {word : String} {inner sign close after : List Char}
    (h : firstFound? (wordTag? o o.closing word) cs = some (inner, sign, close, after)) :
    ∃ block eaten, firstTaken? (fun cs => (wordBlocks .standard word.toList cs).head?) cs =
        some (inner, block, eaten ++ after) ∧ close = block ++ eaten ∧ ∀ c ∈ eaten, Text.isBlank c = true := by
  obtain ⟨more, rfl, hword, hnone⟩ := firstFound?_eq h
  obtain ⟨block, eaten, hblocks, hclose, heaten⟩ := wordBlocks_of_wordTag? ho hword
  refine ⟨block, eaten, ?_, hclose, heaten⟩
  rw [firstTaken?_eq_firstFound?, firstFound?_eq_some_iff]
  refine ⟨more, rfl, by rw [hblocks]; rfl, fun s hs hne => ?_⟩
  rw [wordBlocks_of_not_wordTag? ho rfl (hnone s hs hne)]
  rfl

/-- A raw region of the lexer is one of the scan, without the blanks that its closing takes. -/
theorem rawRegion?_of_wordTag? {sign inner sign' close after : List Char}
    (hopen : wordTag? o ⟨false, false⟩ "raw" cs = some (sign, taken, rest))
    (hclose : firstFound? (wordTag? o o.closing "endraw") rest = some (inner, sign', close, after)) :
    ∃ text eaten, rawRegion? .standard cs = some (text, eaten ++ after) ∧ taken ++ inner ++ close = text ++ eaten ∧
      text.getLast? = some '}' ∧ ∀ c ∈ eaten, Text.isBlank c = true := by
  obtain ⟨block, eaten, hblock, rfl, heaten⟩ := wordBlocks_of_wordTag? ho hopen
  obtain ⟨block', eaten', hblock', rfl, heaten'⟩ := firstTaken?_of_firstFound? ho hclose
  have hfirst : firstTaken? (fun cs => (wordBlocks .standard "endraw".toList cs).head?) (eaten ++ rest) =
      some (eaten ++ inner, block', eaten' ++ after) := by
    rw [firstTaken?_eq_firstFound?] at hblock' ⊢
    refine firstFound?_append (fun s hs hne => ?_) hblock'
    obtain ⟨c, more, rfl, hc⟩ := exists_cons_of_suffix heaten hs hne
    rw [List.cons_append, wordBlocks_blank hc]
    rfl
  have hraw : rawRegion? .standard cs = some (block ++ (eaten ++ inner) ++ block', eaten' ++ after) := by
    unfold rawRegion?
    rw [hblock]
    simp only [List.findSome?_cons, hfirst]
    rfl
  obtain ⟨before, hend⟩ := (rawRegion?_eq hraw).2.2
  refine ⟨_, eaten', hraw, by simp, ?_, heaten'⟩
  rw [← hend]
  simp [Delimiters.standard]

omit ho in
/-- At a sign no comment ends. -/
theorem mark?_commentEnd_sign {sign s : List Char} (hsign : sign ∈ [[], ['-'], ['+']]) (hs : s <:+ sign)
    (hne : s ≠ []) (more : List Char) : mark? Delimiters.standard.commentEnd (s ++ more) = none := by
  have hsigned : ∀ c ∈ sign, c ≠ '#' := by
    rcases sign_cases hsign with rfl | rfl | rfl <;> simp
  obtain ⟨c, s, rfl, hc⟩ := exists_cons_of_suffix hsigned hs hne
  simp [mark?, Delimiters.standard, hc.symm]

/-- A comment of the lexer is one of the scan, without the blanks that its closing takes. -/
theorem comment?_of_openMark? {sign inner close after : List Char}
    (hopen : openMark? o.delimiters.commentStart cs = some (taken, sign, rest))
    (hclose : firstTaken? (closeMark? o.closing o.delimiters.commentEnd) rest = some (inner, close, after)) :
    ∃ text eaten, comment? .standard cs = some (text, eaten ++ after) ∧ taken ++ inner ++ close = text ++ eaten ∧
      text.getLast? = some '}' ∧ ∀ c ∈ eaten, Text.isBlank c = true := by
  unfold openMark? at hopen
  rw [ho] at hopen hclose
  simp only [Option.bind_eq_bind, Option.bind_eq_some_iff, Prod.exists, Option.some.injEq, Prod.mk.injEq] at hopen
  obtain ⟨start, behind, hstart, rfl, rfl, rfl⟩ := hopen
  rw [firstTaken?_eq_firstFound?] at hclose
  obtain ⟨more, hmore, hend, hnone⟩ := firstFound?_eq hclose
  obtain ⟨mark, eaten, hmark, rfl, heaten⟩ := signedMark?_of_closeMark? (by decide) hend
  obtain ⟨sign, hsign, rfl, hsplit⟩ := signedMark?_eq hmark
  obtain ⟨hbehind, hsign'⟩ := cutSign_eq behind
  -- For the scan the signs at both ends are a part of what the comment says.
  have hend' : firstFound? (mark? Delimiters.standard.commentEnd) more =
      some (sign ++ [], Delimiters.standard.commentEnd, eaten ++ after) := by
    rw [hsplit, List.append_assoc]
    refine firstFound?_append (fun s hs hne => mark?_commentEnd_sign hsign hs hne _) ?_
    exact firstFound?_here (mark?_append ..)
  have hinner := firstFound?_append (fun s hs hne => mark?_of_not_closeMark? (by decide) (hnone s hs hne)) hend'
  rw [← hmore] at hinner
  have hfirst := firstFound?_append (fun s hs hne => mark?_commentEnd_sign hsign' hs hne _) hinner
  rw [← hbehind] at hfirst
  have hcomment : comment? .standard cs = some (start ++ ((cutSign behind).1 ++ (inner ++ (sign ++ []))) ++
      Delimiters.standard.commentEnd, eaten ++ after) := by
    unfold comment?
    rw [hstart]
    simp only [firstTaken?_eq_firstFound?, Option.bind_eq_bind, Option.bind_some, hfirst]
  obtain ⟨before, hlast⟩ := (comment?_eq hcomment).2.2
  refine ⟨_, eaten, hcomment, by simp [Delimiters.standard], ?_, heaten⟩
  rw [← hlast]
  simp [Delimiters.standard]

/-! ### Openings -/

/-- Where nothing opens for the lexer, neither mark stands at which the scan looks for a region. -/
theorem not_prefix_of_opening? (h : opening? o cs = none) :
    ¬ Delimiters.standard.blockStart <+: cs ∧ ¬ Delimiters.standard.commentStart <+: cs := by
  unfold opening? at h
  rw [ho] at h
  split at h
  · cases h
  · have hmarks : ∀ kind mark, (kind, mark) ∈ openings .standard → ¬ mark <+: cs := by
      rintro kind mark hmem hmark
      have hnone := List.findSome?_eq_none_iff.1 h (kind, mark) hmem
      rw [Option.map_eq_none_iff] at hnone
      simp [openMark?, mark?, List.isPrefixOf_iff_prefix.2 hmark] at hnone
    exact ⟨hmarks .block _ (by decide), hmarks .comment _ (by decide)⟩

/-- What opens for the lexer stands there as it stands. -/
theorem opening?_eq {opening : Opening} {sign : List Char} (h : opening? o cs = some (opening, sign, taken, rest)) :
    cs = taken ++ rest ∧ (opening = .raw → wordTag? o ⟨false, false⟩ "raw" cs = some (sign, taken, rest)) ∧
      (opening = .comment → openMark? o.delimiters.commentStart cs = some (taken, sign, rest)) := by
  unfold opening? at h
  split at h
  · next sign' taken' rest' hword =>
    simp only [Option.some.injEq, Prod.mk.injEq] at h
    obtain ⟨rfl, rfl, rfl, rfl⟩ := h
    obtain ⟨block, eaten, hblock, rfl, -⟩ := wordBlocks_of_wordTag? ho hword
    obtain ⟨hcs, -⟩ := mem_wordBlocks (hblock ▸ List.mem_singleton_self _)
    exact ⟨by rw [hcs, List.append_assoc], fun _ => hword, by simp⟩
  · rw [ho] at h ⊢
    obtain ⟨⟨kind, mark⟩, hmem, h⟩ := List.exists_of_findSome?_eq_some h
    simp only [Option.map_eq_some_iff, Prod.exists, Prod.mk.injEq] at h
    obtain ⟨_, _, _, hopen, rfl, rfl, rfl, rfl⟩ := h
    have hkind : kind ≠ .raw ∧ (kind = .comment → mark = Delimiters.standard.commentStart) := by
      have hall : ∀ m ∈ openings .standard, m.1 ≠ .raw ∧ (m.1 = .comment → m.2 = Delimiters.standard.commentStart) := by
        decide
      exact hall _ hmem
    refine ⟨?_, fun hraw => absurd hraw hkind.1, fun hcomment => hkind.2 hcomment ▸ hopen⟩
    unfold openMark? at hopen
    simp only [Option.bind_eq_bind, Option.bind_eq_some_iff, Prod.exists, Option.some.injEq, Prod.mk.injEq] at hopen
    obtain ⟨start, behind, hstart, rfl, rfl, rfl⟩ := hopen
    obtain ⟨rfl, rfl⟩ := mark?_eq hstart
    rw [List.append_assoc, ← (cutSign_eq behind).1]

end

/-! ### Regions of a run -/

/-- No region begins where neither mark stands. -/
theorem region?_eq_none {d : Delimiters} (hblock : ¬ d.blockStart <+: cs) (hcomment : ¬ d.commentStart <+: cs) :
    region? d names cs = none := by
  cases h : region? d names cs with
  | none => rfl
  | some found =>
    unfold region? at h
    split at h
    · next hraw =>
      obtain ⟨rfl, hstart, -⟩ := rawRegion?_eq hraw
      exact absurd (hstart.trans (List.prefix_append ..)) hblock
    · split at h
      · next hkept =>
        obtain ⟨rfl, hstart, -⟩ := comment?_eq hkept
        exact absurd (hstart.trans (List.prefix_append ..)) hcomment
      · obtain ⟨⟨t, after⟩, htag, -⟩ := Option.map_eq_some_iff.1 h
        obtain ⟨rfl, ht, -⟩ := tag?_eq htag
        obtain ⟨sign, -, hopening⟩ := ht.opening
        refine absurd ?_ hblock
        simp only [TagText.source, hopening, List.append_assoc]
        exact List.prefix_append ..

/-- A region that begins somewhere is no plain character, and is not empty. -/
theorem region?_proper {region : Region} {after : List Char}
    (h : region? .standard names cs = some (region, after)) : region.source ≠ [] ∧ ∀ c, region ≠ .plain c := by
  have hbegins {m : Char} {mark text : List Char} (hp : m :: mark <+: text) : text ≠ [] := by
    rintro rfl
    exact absurd (List.prefix_nil.1 hp) (by simp)
  unfold region? at h
  split at h
  · next hraw =>
    simp only [Option.some.injEq, Prod.mk.injEq] at h
    obtain ⟨rfl, rfl⟩ := h
    exact ⟨hbegins (rawRegion?_eq hraw).2.1, by simp⟩
  · split at h
    · next hkept =>
      simp only [Option.some.injEq, Prod.mk.injEq] at h
      obtain ⟨rfl, rfl⟩ := h
      exact ⟨hbegins (comment?_eq hkept).2.1, by simp⟩
    · obtain ⟨⟨t, after⟩, htag, h⟩ := Option.map_eq_some_iff.1 h
      simp only [Prod.mk.injEq] at h
      obtain ⟨rfl, rfl⟩ := h
      obtain ⟨sign, -, hopening⟩ := (tag?_eq htag).2.1.opening
      refine ⟨?_, by simp⟩
      simp [Region.source, TagText.source, hopening, Delimiters.standard]

theorem regions_here {region : Region} {after : List Char}
    (h : region? .standard names cs = some (region, after)) :
    regions .standard names cs = region :: regions .standard names after := by
  have hcs := (region?_eq h).1
  have hne := List.length_pos_iff.2 (region?_proper h).1
  have hlt : after.length < cs.length := by
    rw [hcs, List.length_append]
    omega
  cases cs with
  | nil => simp at hlt
  | cons c cs =>
    rw [regions, h]
    simp only [if_pos hlt]

theorem regions_there {d : Delimiters} {c : Char} (h : region? d names (c :: cs) = none) :
    regions d names (c :: cs) = .plain c :: regions d names cs := by
  rw [regions, h]

/-- A run is found to be plain exactly when a region begins at none of its places. -/
theorem regions_run_iff {run : List Char} {parts : List Region} :
    regions .standard names (run ++ cs) = run.map .plain ++ parts ↔
      (∀ s, s <:+ run → s ≠ [] → region? .standard names (s ++ cs) = none) ∧ regions .standard names cs = parts := by
  induction run with
  | nil =>
    have hnone : ∀ s, s <:+ [] → s ≠ [] → region? .standard names (s ++ cs) = none :=
      fun s hs hne => absurd (List.suffix_nil.1 hs) hne
    exact (and_iff_right hnone).symm
  | cons c run ih =>
    cases h : region? .standard names (c :: (run ++ cs)) with
    | none =>
      rw [List.cons_append, regions_there h, List.map_cons, List.cons_append, List.cons.injEq, ih]
      simp only [List.suffix_cons_iff, true_and]
      refine and_congr_left' ⟨fun hrun s hs hne => ?_, fun hrun s hs => hrun s (.inr hs)⟩
      rcases hs with rfl | hs
      · exact h
      · exact hrun s hs hne
    | some found =>
      obtain ⟨region, after⟩ := found
      have hplain := (region?_proper h).2 c
      rw [List.cons_append, regions_here h, List.map_cons, List.cons_append, List.cons.injEq]
      constructor
      · rintro ⟨hregion, -⟩
        exact absurd hregion hplain
      · rintro ⟨hrun, -⟩
        have hnone : region? .standard names (c :: (run ++ cs)) = none := hrun _ (List.suffix_refl _) (by simp)
        rw [h] at hnone
        cases hnone

/-! ### The walk of the lexer -/

/-- A block of one of the names stands here and is closed: the mark with its sign, blanks, and the name before a
blank or the closing. -/
def IsNamed (d : Delimiters) (names : List (List Char)) (cs : List Char) : Prop :=
  ∃ t : TagText, ∃ rest, t.IsTag d names ∧ cs = t.source ++ rest ∧ endsName d (t.markup ++ t.closing ++ rest)

/-- A text up to one of its ends. -/
def upTo (rest cs : List Char) : List Char := cs.take (cs.length - rest.length)

theorem upTo_append (h : rest <:+ cs) : upTo rest cs ++ rest = cs := by
  obtain ⟨before, rfl⟩ := h
  simp [upTo]

/-- A stretch of a text as the lexer comes across it. -/
inductive Piece where
  /-- Data in which nothing opens. -/
  | data (cs : List Char)
  /-- A raw region or a comment, with the blanks that its closing takes. -/
  | kept (cs : List Char)
  /-- An expression or a block that is no directive, with the blanks that its closing takes. -/
  | ordinary (cs : List Char)
  | directive (t : TagText)
  deriving DecidableEq, Repr

namespace Piece

/-- The piece as it stands. -/
def source : Piece → List Char
  | data cs => cs
  | kept cs => cs
  | ordinary cs => cs
  | directive t => t.source

/-- The piece as it is to be rewritten. -/
def rewritten : Piece → List Char
  | directive t => t.rewritten
  | piece => piece.source

/-- The regions that the scan is to find in the piece. -/
def regions : Piece → List Region
  | data cs => cs.map .plain
  | kept cs =>
    let text := Text.dropEndWhile Text.isBlank cs
    .kept text :: (cs.drop text.length).map .plain
  | ordinary cs => cs.map .plain
  | directive t => [.tag t]

/-- The scan comes across nothing else in the piece when a text stands behind it: no region begins in an expression
or in a block that is no directive, and no raw region at a directive. -/
def IsClear (names : List (List Char)) (after : List Char) : Piece → Prop
  | ordinary cs => ∀ s, s <:+ cs → s ≠ [] → region? .standard names (s ++ after) = none
  | directive t => rawRegion? .standard (t.source ++ after) = none
  | _ => True

end Piece

/-- What the lexer comes across where something opens, and what it leaves. -/
inductive Stretch (o : Options) (names : List (List Char)) : Opening → (taken rest : List Char) → Piece →
    (after : List Char) → Prop where
  | raw {taken rest inner sign close after : List Char} :
    firstFound? (wordTag? o o.closing "endraw") rest = some (inner, sign, close, after) →
    Stretch o names .raw taken rest (.kept (taken ++ inner ++ close)) after
  | comment {taken rest inner close after : List Char} :
    firstTaken? (closeMark? o.closing o.delimiters.commentEnd) rest = some (inner, close, after) →
    Stretch o names .comment taken rest (.kept (taken ++ inner ++ close)) after
  /-- A directive ends at its first closing. -/
  | directive {taken rest : List Char} {t : TagText} {after : List Char} :
    tag? o.delimiters names (taken ++ rest) = some (t, after) →
    Stretch o names .block taken rest (.directive t) after
  | block {taken rest after : List Char} {size line fuel : Nat} :
    ¬ IsNamed o.delimiters names (taken ++ rest) →
    Cursor.leave? o size fuel false ⟨.block, [], line, rest⟩ = some after →
    Stretch o names .block taken rest (.ordinary (upTo after (taken ++ rest))) after
  | expression {taken rest after : List Char} {size line fuel : Nat} :
    Cursor.leave? o size fuel false ⟨.variable_, [], line, rest⟩ = some after →
    Stretch o names .variable_ taken rest (.ordinary (upTo after (taken ++ rest))) after

/-- The pieces of a text all of whose tags, raw regions and comments are closed, as the lexer comes across them from
data on. -/
inductive Tiles (o : Options) (names : List (List Char)) : List Char → List Piece → Prop where
  | data {cs : List Char} : firstFound? (opening? o) cs = none → Tiles o names cs [.data cs]
  | next {cs before sign taken rest after : List Char} {opening : Opening} {piece : Piece} {pieces : List Piece} :
    firstFound? (opening? o) cs = some (before, opening, sign, taken, rest) →
    Stretch o names opening taken rest piece after → Tiles o names after pieces →
    Tiles o names cs (.data before :: piece :: pieces)

/-- The scan comes across nothing else in any of the pieces. -/
def IsClear (names : List (List Char)) : List Piece → Prop
  | [] => True
  | piece :: pieces => piece.IsClear names (pieces.flatMap Piece.source) ∧ IsClear names pieces

/-- The scan takes a tag exactly where a block of one of the names stands that is closed. -/
theorem tag?_isSome_iff : (tag? .standard names cs).isSome = true ↔ IsNamed .standard names cs := by
  constructor
  · intro h
    obtain ⟨⟨t, rest⟩, htag⟩ := Option.isSome_iff_exists.1 h
    obtain ⟨hcs, ht, hends⟩ := tag?_eq htag
    exact ⟨t, rest, ht, hcs, hends⟩
  · rintro ⟨t, rest, ht, rfl, hends⟩
    obtain ⟨sign, hsign, hopening⟩ := ht.opening
    have hclosed : (firstTaken? (signedMark? Delimiters.standard.blockEnd) (t.markup ++ t.closing ++ rest)).isSome := by
      rw [← Option.ne_none_iff_isSome, firstTaken?_eq_firstFound?, ne_eq, firstFound?_eq_none_iff]
      intro hnone
      have hat := hnone (t.closing ++ rest) (by rw [List.append_assoc]; exact List.suffix_append ..)
      rw [ht.closes rest] at hat
      cases hat
    have hsource : t.source ++ rest = Delimiters.standard.blockStart ++
        (sign ++ (t.blanks ++ (t.name ++ (t.markup ++ t.closing ++ rest)))) := by
      simp [TagText.source, hopening]
    unfold tag?
    rw [hsource, mark?_append]
    simp only [Option.bind_eq_bind, Option.bind_some]
    rw [List.findSome?_isSome_iff]
    refine ⟨_, signCuts_append hsign _, ?_⟩
    rw [List.findSome?_isSome_iff]
    refine ⟨_, blankCuts_append ht.blanks _, ?_⟩
    rw [List.findSome?_isSome_iff]
    refine ⟨t.name, ht.name, ?_⟩
    obtain ⟨⟨markup, closing, after⟩, hfirst⟩ := Option.isSome_iff_exists.1 hclosed
    rw [mark?_append, Option.bind_some, if_pos hends, hfirst]
    rfl

/-- The regions of a piece that is kept. -/
theorem Piece.regions_kept {text eaten : List Char} (hlast : text.getLast? = some '}')
    (heaten : ∀ c ∈ eaten, Text.isBlank c = true) :
    (Piece.kept (text ++ eaten)).regions = .kept text :: eaten.map .plain := by
  have hinked : ∀ c, text.getLast? = some c → Text.isBlank c = false := by
    intro c hc
    rw [hlast] at hc
    obtain rfl := Option.some.inj hc
    decide
  simp only [Piece.regions, Text.dropEndWhile_append hinked heaten, List.drop_left]

/-- What is kept is found where it begins; the blanks that its closing takes are plain for the scan. -/
theorem regions_kept_iff {text eaten after : List Char} {parts : List Region}
    (hregion : region? .standard names cs = some (.kept text, eaten ++ after))
    (hlast : text.getLast? = some '}') (heaten : ∀ c ∈ eaten, Text.isBlank c = true) :
    Template.regions .standard names cs = (Piece.kept (text ++ eaten)).regions ++ parts ↔
      Template.regions .standard names after = parts := by
  have hblank : ∀ s, s <:+ eaten → s ≠ [] → region? .standard names (s ++ after) = none := by
    intro s hs hne
    obtain ⟨c, s, rfl, hc⟩ := exists_cons_of_suffix heaten hs hne
    have hbrace : '{' ≠ c := by
      rintro rfl
      exact absurd hc (by decide)
    apply region?_eq_none <;> simp [Delimiters.standard, hbrace]
  rw [regions_here hregion, Piece.regions_kept hlast heaten, List.cons_append, List.cons.injEq, regions_run_iff,
    and_iff_right rfl, and_iff_right hblank]

/-- A tag that is no directive is plain for the scan exactly if no region begins in it. -/
theorem regions_ordinary_iff {after : List Char} {parts : List Region} (h : after <:+ cs) :
    cs = (Piece.ordinary (upTo after cs)).source ++ after ∧
      (Template.regions .standard names cs = (Piece.ordinary (upTo after cs)).regions ++ parts ↔
        (Piece.ordinary (upTo after cs)).IsClear names after ∧ Template.regions .standard names after = parts) := by
  have hsplit := upTo_append h
  refine ⟨hsplit.symm, ?_⟩
  conv => lhs; lhs; rw [← hsplit]
  exact regions_run_iff

/-- The marks of a block and of a comment do not stand at one place. -/
theorem not_blockStart (h : Delimiters.standard.commentStart <+: cs) : ¬ Delimiters.standard.blockStart <+: cs := by
  obtain ⟨more, rfl⟩ := h
  simp [Delimiters.standard]

theorem region?_of_rawRegion? {text after : List Char} (h : rawRegion? .standard cs = some (text, after)) :
    region? .standard names cs = some (.kept text, after) := by
  unfold region?
  rw [h]

theorem region?_of_comment? {text after : List Char} (h : comment? .standard cs = some (text, after)) :
    region? .standard names cs = some (.kept text, after) := by
  obtain ⟨hcs, hstart, -⟩ := comment?_eq h
  have hblock := not_blockStart (hcs ▸ hstart.trans (List.prefix_append ..))
  cases hraw : rawRegion? .standard cs with
  | none =>
    unfold region?
    rw [hraw, h]
  | some found =>
    obtain ⟨taken, rest⟩ := found
    obtain ⟨hcs, hstart, -⟩ := rawRegion?_eq hraw
    exact absurd (hcs ▸ hstart.trans (List.prefix_append ..)) hblock

/-- Where a tag stands, it is a region unless a raw region begins there. -/
theorem region?_of_tag? {t : TagText} {after : List Char} (hraw : rawRegion? .standard cs = none)
    (h : tag? .standard names cs = some (t, after)) : region? .standard names cs = some (.tag t, after) := by
  obtain ⟨hcs, ht, -⟩ := tag?_eq h
  obtain ⟨sign, -, hopening⟩ := ht.opening
  have hblock : Delimiters.standard.blockStart <+: cs := by
    rw [hcs]
    simp only [TagText.source, hopening, List.append_assoc]
    exact List.prefix_append ..
  cases hcomment : comment? .standard cs with
  | none =>
    unfold region?
    rw [hraw, hcomment, h]
    rfl
  | some found =>
    obtain ⟨taken, rest⟩ := found
    obtain ⟨hcs, hstart, -⟩ := comment?_eq hcomment
    exact absurd hblock (not_blockStart (hcs ▸ hstart.trans (List.prefix_append ..)))

/-- At what opens, the scan finds what the lexer finds exactly if it comes across nothing else. -/
theorem Stretch.regions_iff (ho : o.delimiters = .standard) {opening : Opening} {sign after : List Char}
    {piece : Piece} (hopen : opening? o (taken ++ rest) = some (opening, sign, taken, rest))
    (h : Stretch o names opening taken rest piece after) (parts : List Region) :
    taken ++ rest = piece.source ++ after ∧
      (Template.regions .standard names (taken ++ rest) = piece.regions ++ parts ↔
        piece.IsClear names after ∧ Template.regions .standard names after = parts) := by
  obtain ⟨-, hraw, hcomment⟩ := opening?_eq ho hopen
  cases h with
  | raw hclose =>
    obtain ⟨text, eaten, hregion, hsource, hlast, heaten⟩ := rawRegion?_of_wordTag? ho (hraw rfl) hclose
    have hcs := (rawRegion?_eq hregion).1
    rw [hsource]
    refine ⟨by rw [hcs, ← List.append_assoc]; rfl, ?_⟩
    rw [regions_kept_iff (region?_of_rawRegion? hregion) hlast heaten]
    exact (and_iff_right trivial).symm
  | comment hclose =>
    obtain ⟨text, eaten, hregion, hsource, hlast, heaten⟩ := comment?_of_openMark? ho (hcomment rfl) hclose
    have hcs := (comment?_eq hregion).1
    rw [hsource]
    refine ⟨by rw [hcs, ← List.append_assoc]; rfl, ?_⟩
    rw [regions_kept_iff (region?_of_comment? hregion) hlast heaten]
    exact (and_iff_right trivial).symm
  | @directive _ _ t _ htag =>
    rw [ho] at htag
    have hcs := (tag?_eq htag).1
    refine ⟨hcs, ?_⟩
    show _ ↔ rawRegion? .standard (t.source ++ after) = none ∧ _
    rw [← hcs]
    cases hregion : rawRegion? .standard (taken ++ rest) with
    | none =>
      rw [regions_here (region?_of_tag? hregion htag)]
      simp [Piece.regions]
    | some found =>
      obtain ⟨text, behind⟩ := found
      rw [regions_here (region?_of_rawRegion? hregion)]
      simp [Piece.regions]
  | block _ hleave =>
    exact regions_ordinary_iff ((Cursor.suffix_leave? ho (by simp) hleave).trans (List.suffix_append ..))
  | expression hleave =>
    exact regions_ordinary_iff ((Cursor.suffix_leave? ho (by simp) hleave).trans (List.suffix_append ..))

/-- A piece is rewritten as its regions are. -/
theorem Piece.rewritten_regions (piece : Piece) : piece.regions.flatMap Region.rewritten = piece.rewritten := by
  have hplain (cs : List Char) : (cs.map Region.plain).flatMap Region.rewritten = cs := by
    induction cs with
    | nil => rfl
    | cons c cs ih =>
      rw [List.map_cons, List.flatMap_cons, ih]
      rfl
  cases piece with
  | data cs => exact hplain cs
  | kept cs =>
    obtain ⟨trail, htrail⟩ := Text.exists_dropEndWhile_append Text.isBlank cs
    show Text.dropEndWhile Text.isBlank cs ++
      ((cs.drop (Text.dropEndWhile Text.isBlank cs).length).map Region.plain).flatMap Region.rewritten = cs
    generalize Text.dropEndWhile Text.isBlank cs = text at htrail ⊢
    rw [hplain, ← htrail, List.drop_left]
  | ordinary cs => exact hplain cs
  | directive t => simp [Piece.regions, Piece.rewritten, Region.rewritten]

/-- The pieces of a text, put together, are the text; and its regions are theirs exactly if the scan comes across
nothing else in any of them. -/
theorem Tiles.regions_iff (ho : o.delimiters = .standard) {pieces : List Piece} (h : Tiles o names cs pieces) :
    pieces.flatMap Piece.source = cs ∧
      (Template.regions .standard names cs = pieces.flatMap Piece.regions ↔ IsClear names pieces) := by
  have hdata (s : List Char) (hnone : opening? o s = none) : region? .standard names s = none :=
    region?_eq_none (not_prefix_of_opening? ho hnone).1 (not_prefix_of_opening? ho hnone).2
  induction h with
  | @data cs hnone =>
    have hrun : Template.regions .standard names (cs ++ []) = cs.map .plain ++ [] := by
      refine regions_run_iff.2 ⟨fun s hs _ => ?_, by rw [Template.regions]⟩
      rw [List.append_nil]
      exact hdata s (firstFound?_eq_none_iff.1 hnone s hs)
    rw [List.append_nil, List.append_nil] at hrun
    rw [hrun]
    simp [Piece.source, Piece.regions, IsClear, Piece.IsClear]
  | @next cs before sign taken rest after opening piece pieces hfirst hstretch _ ih =>
    obtain ⟨more, rfl, hopen, hnone⟩ := firstFound?_eq hfirst
    obtain ⟨rfl, -⟩ := opening?_eq ho hopen
    obtain ⟨hsource, hstep⟩ := hstretch.regions_iff ho hopen (pieces.flatMap Piece.regions)
    obtain ⟨hafter, htail⟩ := ih
    constructor
    · simp only [List.flatMap_cons, hafter]
      rw [← hsource]
      rfl
    · show Template.regions .standard names (before ++ (taken ++ rest)) =
        before.map .plain ++ (piece.regions ++ pieces.flatMap Piece.regions) ↔
          True ∧ piece.IsClear names (pieces.flatMap Piece.source) ∧ IsClear names pieces
      rw [regions_run_iff, and_iff_right fun s hs hne => hdata _ (hnone s hs hne), hstep, htail, hafter, true_and]

/-- The scan rewrites directive tags where the lexer comes across them, and nowhere else, exactly as far as it
comes across nothing else: of a text whose tags, raw regions and comments are closed it finds the regions that the
pieces of the lexer have if and only if in none of the other tags a region begins for it, in a literal or elsewhere,
and no raw region begins for it at a directive. -/
theorem rewriteTags_tiles (names : List (List Char)) (ho : o.delimiters = .standard) {pieces : List Piece}
    (h : Tiles o (byLength names) cs pieces) :
    pieces.flatMap Piece.source = cs ∧
    (Template.regions .standard (byLength names) cs = pieces.flatMap Piece.regions ↔
      IsClear (byLength names) pieces) ∧
    (IsClear (byLength names) pieces → rewriteTags .standard names cs = pieces.flatMap Piece.rewritten) := by
  obtain ⟨hsource, hregions⟩ := h.regions_iff ho
  refine ⟨hsource, hregions, fun hclear => ?_⟩
  rw [rewriteTags_eq, hregions.2 hclear, List.flatMap_assoc]
  simp only [Piece.rewritten_regions]

theorem rewriteTags_tiles_expression :
    let names := ["include_file".toList]
    let source := "\x7b\x7b x \x7d\x7d\x7b% include_file a.html %\x7d".toList
    let tag : TagText := ⟨"\x7b%".toList, [' '], "include_file".toList, " a.html ".toList, "%\x7d".toList⟩
    let pieces : List Piece := [.data [], .ordinary "\x7b\x7b x \x7d\x7d".toList, .data [], .directive tag, .data []]
    Tiles .standard names source pieces ∧ IsClear names pieces ∧
      rewriteTags .standard names source = pieces.flatMap Piece.rewritten := by
  intro names source tag pieces
  have hopen : firstFound? (opening? .standard) source =
      some ([], .variable_, [], "\x7b\x7b".toList, " x \x7d\x7d\x7b% include_file a.html %\x7d".toList) := by
    decide +kernel
  have hleave : Cursor.leave? .standard 0 9 false
      ⟨.variable_, [], 1, " x \x7d\x7d\x7b% include_file a.html %\x7d".toList⟩ =
        some "\x7b% include_file a.html %\x7d".toList := by
    decide +kernel
  have hopen' : firstFound? (opening? .standard) "\x7b% include_file a.html %\x7d".toList =
      some ([], .block, [], "\x7b%".toList, " include_file a.html %\x7d".toList) := by
    decide +kernel
  have htag : tag? .standard names "\x7b% include_file a.html %\x7d".toList = some (tag, []) := by
    decide +kernel
  have htiles : Tiles .standard names source pieces :=
    .next hopen (.expression hleave) (.next hopen' (.directive htag) (.data (by decide +kernel)))
  have hall := rewriteTags_tiles names rfl htiles
  have hclear : IsClear names pieces := hall.2.1.1 (by decide +kernel)
  exact ⟨htiles, hclear, hall.2.2 hclear⟩

/-- What looks like a directive in a literal is rewritten, and what looks like a comment around a directive, its
marks being in literals, keeps it from being rewritten. -/
theorem rewriteTags_literal_marks :
    (let names := ["include_file".toList]
    let source := "\x7b\x7b '\x7b% include_file a.html %\x7d' \x7d\x7d".toList
    let pieces : List Piece := [.data [], .ordinary source, .data []]
    Tiles .standard names source pieces ∧ rewriteTags .standard names source ≠ pieces.flatMap Piece.rewritten) ∧
    (let names := ["include_file".toList]
    let source := "\x7b\x7b '\x7b#' \x7d\x7d\x7b% include_file a.html %\x7d\x7b\x7b '#\x7d' \x7d\x7d".toList
    let tag : TagText := ⟨"\x7b%".toList, [' '], "include_file".toList, " a.html ".toList, "%\x7d".toList⟩
    let pieces : List Piece := [.data [], .ordinary "\x7b\x7b '\x7b#' \x7d\x7d".toList, .data [], .directive tag,
      .data [], .ordinary "\x7b\x7b '#\x7d' \x7d\x7d".toList, .data []]
    Tiles .standard names source pieces ∧ rewriteTags .standard names source = source ∧
      source ≠ pieces.flatMap Piece.rewritten) := by
  constructor
  · intro names source pieces
    have hopen : firstFound? (opening? .standard) source =
        some ([], .variable_, [], "\x7b\x7b".toList, " '\x7b% include_file a.html %\x7d' \x7d\x7d".toList) := by
      decide +kernel
    have hleave : Cursor.leave? .standard 0 9 false
        ⟨.variable_, [], 1, " '\x7b% include_file a.html %\x7d' \x7d\x7d".toList⟩ = some [] := by
      decide +kernel
    exact ⟨.next hopen (.expression hleave) (.data (by decide +kernel)), by decide +kernel⟩
  · intro names source tag pieces
    have hopen : firstFound? (opening? .standard) source = some ([], .variable_, [], "\x7b\x7b".toList,
        " '\x7b#' \x7d\x7d\x7b% include_file a.html %\x7d\x7b\x7b '#\x7d' \x7d\x7d".toList) := by
      decide +kernel
    have hleave : Cursor.leave? .standard 0 9 false
        ⟨.variable_, [], 1, " '\x7b#' \x7d\x7d\x7b% include_file a.html %\x7d\x7b\x7b '#\x7d' \x7d\x7d".toList⟩ =
          some "\x7b% include_file a.html %\x7d\x7b\x7b '#\x7d' \x7d\x7d".toList := by
      decide +kernel
    have htag : firstFound? (opening? .standard) "\x7b% include_file a.html %\x7d\x7b\x7b '#\x7d' \x7d\x7d".toList =
        some ([], .block, [], "\x7b%".toList, " include_file a.html %\x7d\x7b\x7b '#\x7d' \x7d\x7d".toList) ∧
        tag? .standard names "\x7b% include_file a.html %\x7d\x7b\x7b '#\x7d' \x7d\x7d".toList =
          some (tag, "\x7b\x7b '#\x7d' \x7d\x7d".toList) := by
      decide +kernel
    have hlast : firstFound? (opening? .standard) "\x7b\x7b '#\x7d' \x7d\x7d".toList =
        some ([], .variable_, [], "\x7b\x7b".toList, " '#\x7d' \x7d\x7d".toList) ∧
        Cursor.leave? .standard 0 9 false ⟨.variable_, [], 1, " '#\x7d' \x7d\x7d".toList⟩ = some [] := by
      decide +kernel
    refine ⟨.next hopen (.expression hleave) (.next htag.1 (.directive htag.2)
      (.next hlast.1 (.expression hlast.2) (.data (by decide +kernel)))), ?_⟩
    decide +kernel

/-! ### The tags that are rewritten -/

/-- What a region comes to: characters that stay, or a tag that is rewritten. -/
def Region.items : Region → List (Char ⊕ TagText)
  | plain c => [.inl c]
  | kept text => text.map .inl
  | tag t => [.inr t]

/-- What a piece is to come to. -/
def Piece.items : Piece → List (Char ⊕ TagText)
  | directive t => [.inr t]
  | piece => piece.source.map .inl

/-- The scan passes a piece when a text stands behind it: it comes to the end of an expression or of a block that is no
directive, and rewrites nothing on the way, and no raw region begins for it at a directive. -/
def Piece.IsPassed (names : List (List Char)) (after : List Char) : Piece → Prop
  | ordinary cs => ∃ front, Template.regions .standard names (cs ++ after) =
      front ++ Template.regions .standard names after ∧ front.flatMap Region.items = cs.map .inl
  | directive t => rawRegion? .standard (t.source ++ after) = none
  | _ => True

/-- The scan passes all of the pieces. -/
def ArePassed (names : List (List Char)) : List Piece → Prop
  | [] => True
  | piece :: pieces => piece.IsPassed names (pieces.flatMap Piece.source) ∧ ArePassed names pieces

theorem items_plain (cs : List Char) : (cs.map Region.plain).flatMap Region.items = cs.map .inl := by
  induction cs with
  | nil => rfl
  | cons c cs ih =>
    rw [List.map_cons, List.flatMap_cons, ih]
    rfl

/-- A piece is to come to what its regions come to. -/
theorem Piece.items_regions (piece : Piece) : piece.regions.flatMap Region.items = piece.items := by
  cases piece with
  | data cs => exact items_plain cs
  | kept cs =>
    obtain ⟨trail, htrail⟩ := Text.exists_dropEndWhile_append Text.isBlank cs
    show (Text.dropEndWhile Text.isBlank cs).map .inl ++
      ((cs.drop (Text.dropEndWhile Text.isBlank cs).length).map Region.plain).flatMap Region.items = cs.map .inl
    generalize Text.dropEndWhile Text.isBlank cs = text at htrail ⊢
    rw [items_plain, ← htrail, List.drop_left, List.map_append]
  | ordinary cs => exact items_plain cs
  | directive t => rfl

/-- A text that is passed without a region is passed. -/
theorem Piece.IsClear.isPassed {piece : Piece} {after : List Char} (h : piece.IsClear names after) :
    piece.IsPassed names after := by
  cases piece with
  | ordinary cs => exact ⟨cs.map .plain, regions_run_iff.2 ⟨h, rfl⟩, items_plain cs⟩
  | directive t => exact h
  | _ => trivial

theorem IsClear.arePassed {pieces : List Piece} (h : IsClear names pieces) : ArePassed names pieces := by
  induction pieces with
  | nil => trivial
  | cons piece pieces ih => exact ⟨h.1.isPassed, ih h.2⟩

/-- What regions stand for is told by what they come to. -/
theorem source_of_items {front : List Region} {piece : Piece} (h : front.flatMap Region.items = piece.items) :
    front.flatMap Region.source = piece.source := by
  have hregion (region : Region) : region.items.flatMap (Sum.elim (fun c => [c]) TagText.source) = region.source := by
    cases region with
    | kept text => simp [Region.items, Region.source, List.flatMap_map]
    | _ => simp [Region.items, Region.source]
  have hpiece : piece.items.flatMap (Sum.elim (fun c => [c]) TagText.source) = piece.source := by
    cases piece <;> simp [Piece.items, Piece.source, List.flatMap_map]
  rw [← hpiece, ← h, List.flatMap_assoc]
  simp only [hregion]

/-- So is what they are rewritten to. -/
theorem rewritten_of_items {front : List Region} {piece : Piece} (h : front.flatMap Region.items = piece.items) :
    front.flatMap Region.rewritten = piece.rewritten := by
  have hregion (region : Region) :
      region.items.flatMap (Sum.elim (fun c => [c]) TagText.rewritten) = region.rewritten := by
    cases region with
    | kept text => simp [Region.items, Region.rewritten, Region.source, List.flatMap_map]
    | _ => simp [Region.items, Region.rewritten, Region.source]
  have hpiece : piece.items.flatMap (Sum.elim (fun c => [c]) TagText.rewritten) = piece.rewritten := by
    cases piece <;> simp [Piece.items, Piece.rewritten, Piece.source, List.flatMap_map]
  rw [← hpiece, ← h, List.flatMap_assoc]
  simp only [hregion]

/-- The last of the regions of a text are those of what they stand for. -/
theorem regions_flatMap_source {d : Delimiters} {front behind : List Region}
    (h : regions d names cs = front ++ behind) : regions d names (behind.flatMap Region.source) = behind := by
  induction front generalizing cs with
  | nil =>
    rw [List.nil_append] at h
    rw [← h, regions_source]
  | cons first front ih =>
    cases cs with
    | nil => simp [regions] at h
    | cons c cs =>
      rw [regions] at h
      split at h
      · split at h <;> exact ih (List.cons.inj h).2
      · exact ih (List.cons.inj h).2

/-- Behind some of its regions a text has the regions of the rest. -/
theorem regions_behind {d : Delimiters} {text after : List Char} {front behind : List Region}
    (h : regions d names (text ++ after) = front ++ behind) (hfront : front.flatMap Region.source = text) :
    regions d names after = behind := by
  have hsource := regions_source d names (text ++ after)
  rw [h, List.flatMap_append, hfront, List.append_cancel_left_eq] at hsource
  rw [← hsource, regions_flatMap_source h]

/-- Where something opens, the scan comes from one end to the other of what the lexer comes across, with the tags that
it is to find, exactly if it passes it. -/
theorem Stretch.scans_iff (ho : o.delimiters = .standard) {opening : Opening} {sign after : List Char}
    {piece : Piece} (hopen : opening? o (taken ++ rest) = some (opening, sign, taken, rest))
    (h : Stretch o names opening taken rest piece after) :
    (∃ front, Template.regions .standard names (taken ++ rest) = front ++ Template.regions .standard names after ∧
      front.flatMap Region.items = piece.items) ↔ piece.IsPassed names after := by
  have hiff := h.regions_iff ho hopen (Template.regions .standard names after)
  obtain ⟨hsource, hregions⟩ := hiff
  have hclear (hclear : piece.IsClear names after) : ∃ front, Template.regions .standard names (taken ++ rest) =
      front ++ Template.regions .standard names after ∧ front.flatMap Region.items = piece.items :=
    ⟨piece.regions, hregions.2 ⟨hclear, rfl⟩, piece.items_regions⟩
  cases piece with
  | data cs => exact iff_of_true (hclear trivial) trivial
  | kept cs => exact iff_of_true (hclear trivial) trivial
  | ordinary cs =>
    rw [hsource]
    rfl
  | directive t =>
    refine ⟨fun ⟨front, hfront, hitems⟩ => ?_, hclear⟩
    -- A raw region that begins at the directive would stay.
    refine Option.eq_none_iff_forall_ne_some.2 fun (text, behind) hraw => ?_
    have hraw : rawRegion? .standard (taken ++ rest) = some (text, behind) := hsource ▸ hraw
    have hregion : region? .standard names (taken ++ rest) = some (.kept text, behind) := region?_of_rawRegion? hraw
    rw [regions_here hregion] at hfront
    cases front with
    | nil => cases hitems
    | cons first front =>
      obtain rfl := (List.cons.inj hfront).1
      have hne : text ≠ [] := (region?_proper hregion).1
      obtain ⟨c, text, rfl⟩ := List.exists_cons_of_ne_nil hne
      cases hitems

/-- The scan comes to the beginning of each piece, and finds as many tags in it as the piece is, exactly if it passes
all of them. -/
theorem Tiles.scans_iff (ho : o.delimiters = .standard) {pieces : List Piece} (h : Tiles o names cs pieces) :
    (∃ fronts, Template.regions .standard names cs = List.flatten fronts ∧
      List.Forall₂ (fun front piece => front.flatMap Region.items = piece.items) fronts pieces) ↔
        ArePassed names pieces := by
  induction h with
  | @data cs hnone =>
    have hrun := ((Tiles.data hnone : Tiles o names cs _).regions_iff ho).2.2 ⟨trivial, trivial⟩
    rw [List.flatMap_singleton] at hrun
    exact iff_of_true ⟨[cs.map .plain], by rw [hrun]; simp [Piece.regions], .cons (items_plain cs) .nil⟩
      ⟨trivial, trivial⟩
  | @next cs before sign taken rest after opening piece pieces hfirst hstretch htiles ih =>
    obtain ⟨more, rfl, hopen, hnone⟩ := firstFound?_eq hfirst
    obtain ⟨rfl, -⟩ := opening?_eq ho hopen
    have hsource := (hstretch.regions_iff ho hopen []).1
    have hbefore : Template.regions .standard names (before ++ (taken ++ rest)) =
        before.map .plain ++ Template.regions .standard names (taken ++ rest) :=
      regions_run_iff.2 ⟨fun s hs hne => region?_eq_none (not_prefix_of_opening? ho (hnone s hs hne)).1
        (not_prefix_of_opening? ho (hnone s hs hne)).2, rfl⟩
    show _ ↔ True ∧ piece.IsPassed names (pieces.flatMap Piece.source) ∧ ArePassed names pieces
    rw [true_and, (htiles.regions_iff ho).1, ← hstretch.scans_iff ho hopen, ← ih]
    constructor
    · rintro ⟨_, hregions, hitems⟩
      cases hitems with | @cons first _ _ _ hdata hitems =>
      cases hitems with | @cons second _ fronts _ hpiece hitems =>
      have hbegin : first.flatMap Region.source = before :=
        source_of_items (show _ = (Piece.data before).items from hdata)
      have hrest : Template.regions .standard names (taken ++ rest) = second ++ fronts.flatten :=
        regions_behind hregions hbegin
      have hafter : Template.regions .standard names after = fronts.flatten :=
        regions_behind (hsource ▸ hrest) (source_of_items hpiece)
      exact ⟨⟨second, by rw [hrest, hafter], hpiece⟩, fronts, hafter, hitems⟩
    · rintro ⟨⟨front, hfront, hpiece⟩, fronts, hafter, hitems⟩
      refine ⟨before.map .plain :: front :: fronts, ?_, .cons (items_plain before) (.cons hpiece hitems)⟩
      rw [hbefore, hfront, hafter]
      rfl

/-- What the scan passes it rewrites as it is to be, whatever else begins for it on the way. It passes what it comes
across nothing else in. -/
theorem rewriteTags_passed (names : List (List Char)) (ho : o.delimiters = .standard) {pieces : List Piece}
    (h : Tiles o (byLength names) cs pieces) :
    (IsClear (byLength names) pieces → ArePassed (byLength names) pieces) ∧
    (ArePassed (byLength names) pieces → rewriteTags .standard names cs = pieces.flatMap Piece.rewritten) := by
  refine ⟨IsClear.arePassed, fun hpassed => ?_⟩
  obtain ⟨fronts, hregions, hitems⟩ := (h.scans_iff ho).2 hpassed
  rw [rewriteTags_eq, hregions]
  clear hregions h hpassed
  induction hitems with
  | nil => rfl
  | cons hfirst _ ih => rw [List.flatten_cons, List.flatMap_append, rewritten_of_items hfirst, ih, List.flatMap_cons]

-- What looks like a comment in a literal is passed, though it is not clear.
example :
    let names := ["include_file".toList]
    let piece : Piece := .ordinary "\x7b\x7b '\x7b# x #\x7d' \x7d\x7d".toList
    piece.IsPassed names [] ∧ ¬piece.IsClear names [] := by
  refine ⟨⟨_, by rw [List.append_nil, show regions .standard _ [] = [] by rw [regions], List.append_nil],
    by decide +kernel⟩, fun hclear => ?_⟩
  have hcomment := hclear "\x7b# x #\x7d' \x7d\x7d".toList (by decide) (by decide)
  exact absurd hcomment (by decide +kernel)

end Transclusion.Template

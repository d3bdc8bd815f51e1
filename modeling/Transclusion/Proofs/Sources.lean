import Mathlib.Data.List.Infix
import Transclusion.Proofs.Blocks

/-! Well-formed sources.

In a source that is well formed but for what its directives say, the directive tags
are those that the lexer comes across on its walk: the scan takes them and nothing
else (`Tiles.isClear`), and so each of them is met when the source is read,
wherever it stands, with its name and its markup and in the order of the source
(`WellFormed.lists`). -/
namespace Transclusion.Template

variable {o : Options} {names : List (List Char)} {directives : List String} {piece : Piece} {pieces : List Piece}
  {cs rest after : List Char}

/-- A name that begins a tag among pieces, as that of a directive tag or of another one. -/
def Uses (pieces : List Piece) (n : String) : Prop :=
  (∃ t, .directive t ∈ pieces ∧ String.ofList t.name = n) ∨ ∃ piece ∈ pieces, piece.IsGlued n

/-- A name that the language of templates leaves to directives. -/
structure IsFree (n : String) : Prop where
  word : IsWord n.toList
  own : n ∉ Parser.ownTags
  ending : n ∉ endTags
  raw : n ≠ "raw"

instance (n : String) : Decidable (IsFree n) :=
  decidable_of_iff (IsWord n.toList ∧ n ∉ Parser.ownTags ∧ n ∉ endTags ∧ n ≠ "raw")
    ⟨fun ⟨word, own, ending, raw⟩ => ⟨word, own, ending, raw⟩, fun h => ⟨h.word, h.own, h.ending, h.raw⟩⟩

/-- Behind its own mark no block and no comment seems to open in a tag. In what the language can read they could
stand in literals only. -/
def Piece.IsQuiet : Piece → Prop
  | ordinary cs => ∀ s, s <:+ cs.tail →
    ¬ Delimiters.standard.blockStart <+: s ∧ ¬ Delimiters.standard.commentStart <+: s
  | _ => True

instance (piece : Piece) : Decidable piece.IsQuiet :=
  match piece with
  | .ordinary cs => decidable_of_iff
      (cs.tail.tails.all (fun s => !Delimiters.standard.blockStart.isPrefixOf s &&
        !Delimiters.standard.commentStart.isPrefixOf s) = true) <| by
    simp [Piece.IsQuiet, List.mem_tails, ← List.isPrefixOf_iff_prefix]
  | .data _ | .kept _ | .directive _ => .isTrue trivial

/-- How a source is read: what it comes to, and the directives met on the way. -/
def readSource (o : Options) (directives : List String) (source : List Char) :
    Except Fault (List Part) × List MetDirective :=
  parse directives (tokenize o (rewriteTags o.delimiters (directives.map String.toList) source))

/-- A source that is well formed, whatever its directives say: its tags, raw regions and comments are closed, the
tags are quiet, `raw` stands in raw regions alone, and the parts of the source can be read. -/
structure WellFormed (o : Options) (directives : List String) (source : List Char) (pieces : List Piece) : Prop where
  tiles : Tiles o (byLength (directives.map String.toList)) source pieces
  quiet : ∀ piece ∈ pieces, piece.IsQuiet
  raw : ∀ piece ∈ pieces, ¬ piece.IsGlued "raw"
  reads : ∃ parts, (readSource o directives source).1 = .ok parts

/-! ### The scan takes the directive tags -/

/-- A block that holds a word begins with it. -/
theorem HasWordBlock.begins {form : Closing} {word : List Char} (h : HasWordBlock form word cs) :
    BeginsBlock word cs := by
  obtain ⟨_, ⟨sign, hsign, blanks, blanks', hblanks, sign', hsign', rfl⟩, tail, rfl⟩ := h
  have hbefore : ∀ c ∈ blanks, Text.isBlank c = true := fun c hc => hblanks c (List.mem_append_left _ hc)
  obtain ⟨d, more, hmore, hd⟩ : ∃ d more, blanks' ++ sign' ++ ['%', '}'] ++ tail = d :: more ∧
      Text.isWordChar d = false := by
    cases blanks' with
    | nil => rcases Closing.mem_signs.1 hsign' with rfl | rfl | ⟨-, rfl⟩ <;> exact ⟨_, _, rfl, by decide⟩
    | cons c blanks' => exact ⟨c, _, rfl, not_isWordChar_of_isBlank (hblanks c (by simp))⟩
  refine ⟨sign, hsign, blanks, d, more, hbefore, hd, ?_⟩
  rw [← hmore]
  simp

/-- A directive tag begins with the name of its directive. -/
theorem begins_of_tag? {t : TagText} (h : tag? .standard names cs = some (t, rest)) : BeginsBlock t.name cs := by
  obtain ⟨rfl, ht, hends⟩ := tag?_eq h
  obtain ⟨sign, hsign, hopening⟩ := ht.opening
  obtain ⟨d, more, hmore, hd⟩ : ∃ d more, t.markup ++ t.closing ++ rest = d :: more ∧ Text.isWordChar d = false := by
    generalize t.markup ++ t.closing ++ rest = text at hends
    cases text with
    | nil => cases hends
    | cons d more =>
      refine ⟨d, more, rfl, ?_⟩
      rcases Bool.or_eq_true_iff.1 hends with hblank | hclose
      · exact not_isWordChar_of_isBlank hblank
      · obtain ⟨⟨closing, rest⟩, hclosing⟩ := Option.isSome_iff_exists.1 hclose
        obtain ⟨sign, hsign, rfl, htext⟩ := signedMark?_eq hclosing
        rcases sign_cases hsign with rfl | rfl | rfl <;> obtain ⟨rfl, -⟩ := List.cons.inj htext <;> decide
  refine ⟨sign, hsign, t.blanks, d, more, ht.blanks, hd, ?_⟩
  rw [← hmore]
  simp [TagText.source, hopening, Delimiters.standard]

/-- A mark of two characters begins a text only within it, if the text does not end with a brace that opens. -/
theorem prefix_of_append {c : Char} {s : List Char} (h : ['{', c] <+: s ++ after) (hne : s ≠ [])
    (hlast : s.getLast? ≠ some '{') : ['{', c] <+: s := by
  obtain ⟨d, s, rfl⟩ := List.exists_cons_of_ne_nil hne
  cases s with
  | nil =>
    obtain ⟨rfl, -⟩ := List.cons_prefix_cons.1 h
    exact absurd rfl hlast
  | cons e s => exact List.prefix_of_prefix_length_le h (List.prefix_append ..) (by simp)

/-- In a quiet tag no region begins for the scan, if none does where the tag begins. -/
theorem Piece.isClear_ordinary (hquiet : (Piece.ordinary cs).IsQuiet)
    (hhere : region? .standard names (cs ++ after) = none) (hlast : cs.getLast? ≠ some '{') :
    (Piece.ordinary cs).IsClear names after := by
  intro s hs hne
  have hend : s.getLast? ≠ some '{' := by
    obtain ⟨before, rfl⟩ := hs
    rwa [List.getLast?_append_of_ne_nil _ hne] at hlast
  cases cs with
  | nil => exact absurd (List.suffix_nil.1 hs) hne
  | cons c cs =>
    rcases List.suffix_cons_iff.1 hs with rfl | hs
    · exact hhere
    · obtain ⟨hblock, hcomment⟩ := hquiet s hs
      exact region?_eq_none (fun h => hblock (prefix_of_append h hne hend)) fun h =>
        hcomment (prefix_of_append h hne hend)

section
variable (ho : o.delimiters = .standard)
include ho

theorem hasWordBlock_of_rawRegion? {found : List Char × List Char} (h : rawRegion? .standard cs = some found) :
    HasWordBlock o.closing "raw".toList cs := by
  by_contra hnot
  have hword : wordTag? o o.closing "raw" cs = none := (wordTag?_eq_none_iff ho isLettered_raw).2 hnot
  have hnone := wordBlocks_of_not_wordTag? ho rfl hword
  rw [rawRegion?, hnone] at h
  cases h

omit ho in
theorem isWord_raw : IsWord "raw".toList := by decide +kernel

/-- Where another tag opens no region begins for the scan, if it is no directive and does not begin with `raw`. -/
theorem region?_eq_none_of_tag {opening : Opening} (hkind : opening = .block ∨ opening = .variable_) {v : List Char}
    (htag : opening = .block → ¬ IsNamed .standard names (opening.mark ++ v))
    (hraw : ¬ HasWordBlock o.closing "raw".toList (opening.mark ++ v)) :
    region? .standard names (opening.mark ++ v) = none := by
  have hcomment : ¬ Delimiters.standard.commentStart <+: opening.mark ++ v := by
    rcases hkind with rfl | rfl <;> rintro ⟨more, hmore⟩ <;>
      exact absurd (List.cons.inj (List.cons.inj hmore).2).1 (by decide)
  rcases hkind with rfl | rfl
  · have hregion : rawRegion? .standard (Opening.block.mark ++ v) = none :=
      Option.eq_none_iff_forall_ne_some.2 fun found hfound => hraw (hasWordBlock_of_rawRegion? ho hfound)
    have hnone : comment? .standard (Opening.block.mark ++ v) = none :=
      Option.eq_none_iff_forall_ne_some.2 fun (taken, _) hfound => by
        obtain ⟨hcs, hstart, -⟩ := comment?_eq hfound
        exact hcomment (hcs ▸ hstart.trans (List.prefix_append ..))
    have hdirective : tag? .standard names (Opening.block.mark ++ v) = none := by
      rw [← Option.not_isSome_iff_eq_none, tag?_isSome_iff]
      exact htag rfl
    unfold region?
    rw [hregion, hnone, hdirective]
    rfl
  · refine region?_eq_none ?_ hcomment
    rintro ⟨more, hmore⟩
    exact absurd (List.cons.inj (List.cons.inj hmore).2).1 (by decide)

/-- The scan comes across nothing else in a tag that the lexer leaves. -/
theorem isClear_of_leave {opening : Opening} (hkind : opening = .block ∨ opening = .variable_)
    {taken sign : List Char} (hopen : opening? o (taken ++ rest) = some (opening, sign, taken, rest))
    {size line fuel : Nat} (hleave : Cursor.leave? o size fuel false ⟨opening.mode, [], line, rest⟩ = some after)
    (htag : opening = .block → ¬ IsNamed .standard names (taken ++ rest))
    (hquiet : (Piece.ordinary (upTo after (taken ++ rest))).IsQuiet)
    (hraw : ¬ (Piece.ordinary (upTo after (taken ++ rest))).IsGlued "raw") :
    (Piece.ordinary (upTo after (taken ++ rest))).IsClear names after := by
  obtain ⟨body, eaten, hsource, heaten, hlies⟩ := @lies_tag _ names _ ho _ hkind _ _ _ hopen _ _ _ hleave
  obtain ⟨before, rfl⟩ := hlies.exists_concat
  have hsuffix := (Cursor.suffix_leave? ho opening.mode_ne_data hleave).trans (List.suffix_append taken rest)
  have hwhole := upTo_append hsuffix
  rw [hsource] at hquiet hraw hwhole ⊢
  refine Piece.isClear_ordinary hquiet ?_ ?_
  · rcases opening?_cases ho hopen with ⟨rfl, -⟩ | ⟨-, -, v, hv, -⟩
    · rcases hkind with hkind | hkind <;> cases hkind
    · rw [hwhole, hv]
      rw [hv] at htag hwhole
      refine region?_eq_none_of_tag ho hkind htag fun hhas => hraw ?_
      rw [← hwhole] at hhas
      -- The block ends with the brace that closes the tag at the latest.
      have hblock := HasWordBlock.up_to_brace isLettered_raw
        (show HasWordBlock o.closing "raw".toList (before ++ '}' :: (eaten ++ after)) by simpa using hhas)
      exact (hblock.append eaten).begins
  · rcases List.eq_nil_or_concat eaten with rfl | ⟨blanks, c, rfl⟩
    · simp
    · rw [List.concat_eq_append, ← List.append_assoc, List.getLast?_concat]
      rintro ⟨⟩
      exact absurd (heaten '{' (by simp)) (by decide)

/-- The scan comes across nothing else at what the lexer comes across. -/
theorem Stretch.isClear (hnames : ∀ t, piece = .directive t → IsWord t.name ∧ t.name ≠ "raw".toList)
    {opening : Opening} {taken sign : List Char}
    (hopen : opening? o (taken ++ rest) = some (opening, sign, taken, rest))
    (h : Stretch o names opening taken rest piece after) (hquiet : piece.IsQuiet) (hraw : ¬ piece.IsGlued "raw") :
    piece.IsClear names after := by
  cases h with
  | raw _ => trivial
  | comment _ => trivial
  | @directive _ _ t _ htag =>
    rw [ho] at htag
    obtain ⟨hcs, ht, -⟩ := tag?_eq htag
    obtain ⟨hword, hname⟩ := hnames t rfl
    refine Option.eq_none_iff_forall_ne_some.2 fun found hfound => hname ?_
    rw [← hcs] at hfound
    exact (begins_of_tag? htag).unique hword.isRun isWord_raw.isRun (hasWordBlock_of_rawRegion? ho hfound).begins
  | block hnamed hleave =>
    rw [ho] at hnamed
    exact isClear_of_leave ho (.inl rfl) hopen hleave (fun _ => hnamed) hquiet hraw
  | expression hleave => exact isClear_of_leave ho (.inr rfl) hopen hleave (by simp) hquiet hraw

theorem Tiles.isTag {t : TagText} (h : Tiles o names cs pieces) (ht : .directive t ∈ pieces) :
    t.IsTag .standard names := by
  induction h with
  | data _ => simp at ht
  | next _ hstretch _ ih =>
    simp only [List.mem_cons, reduceCtorEq, false_or] at ht
    rcases ht with rfl | ht
    · cases hstretch with
      | directive htag =>
        rw [ho] at htag
        exact (tag?_eq htag).2.1
    · exact ih ht

theorem Tiles.isClear (h : Tiles o names cs pieces)
    (hnames : ∀ t, .directive t ∈ pieces → IsWord t.name ∧ t.name ≠ "raw".toList)
    (hquiet : ∀ piece ∈ pieces, piece.IsQuiet) (hraw : ∀ piece ∈ pieces, ¬ piece.IsGlued "raw") :
    Template.IsClear names pieces := by
  induction h with
  | data _ => exact ⟨trivial, trivial⟩
  | @next cs before sign taken rest after opening piece pieces hfirst hstretch htiles ih =>
    obtain ⟨more, -, hopen, -⟩ := firstFound?_eq hfirst
    obtain ⟨rfl, -⟩ := opening?_eq ho hopen
    refine ⟨trivial, ?_, ih (fun t ht => hnames t (by simp [ht])) (fun p hp => hquiet p (by simp [hp]))
      fun p hp => hraw p (by simp [hp])⟩
    rw [(htiles.regions_iff ho).1]
    exact hstretch.isClear ho (fun t ht => hnames t (by simp [ht])) hopen (hquiet _ (by simp)) (hraw _ (by simp))

end

/-- Of a text in whose pieces it comes across nothing else, the scan rewrites the directive tags. -/
theorem Tiles.rewriteTags (ho : o.delimiters = .standard) {names : List (List Char)}
    (h : Tiles o (byLength names) cs pieces) (hclear : Template.IsClear (byLength names) pieces) :
    Template.rewriteTags .standard names cs = pieces.flatMap Piece.rewritten := by
  rw [rewriteTags_eq, (h.regions_iff ho).2.2 hclear, List.flatMap_assoc]
  simp only [Piece.rewritten_regions]

/-! ### The directives of a source -/

/-- The directives of pieces, in their order: of each directive tag its name and its markup without the blanks
around it, and of each other tag that begins with the name of a directive this name and some markup. -/
inductive Lists (directives : List String) : List Piece → List MetDirective → Prop where
  | nil : Lists directives [] []
  | directive {t : TagText} {pieces : List Piece} {tags : List MetDirective} : String.ofList t.name ∈ directives →
    Lists directives pieces tags →
    Lists directives (.directive t :: pieces) ((String.ofList t.name, Text.strip t.markup) :: tags)
  | glued {piece : Piece} {n : String} {markup : List Char} {pieces : List Piece} {tags : List MetDirective} :
    n ∈ directives → piece.IsGlued n → Lists directives pieces tags →
    Lists directives (piece :: pieces) ((n, markup) :: tags)
  | plain {piece : Piece} {pieces : List Piece} {tags : List MetDirective} : piece.IsPlain directives →
    Lists directives pieces tags → Lists directives (piece :: pieces) tags

theorem Writes.lists {blocks : List (String × List Token)} {tags : List MetDirective}
    (h : Writes directives pieces blocks) (hmet : List.Forall₂ IsMetAs blocks tags) : Lists directives pieces tags := by
  induction h generalizing tags with
  | nil =>
    cases hmet
    exact .nil
  | directive hname _ ih =>
    cases hmet with
    | @cons _ tag _ tags hfirst hrest =>
      obtain ⟨hfirst, hmarkup⟩ := hfirst
      obtain rfl : tag = (_, _) := Prod.ext hfirst ((hmarkup _ _ _ _ rfl).trans (String.toList_ofList ..))
      exact .directive hname (ih hrest)
  | glued hn hglued _ ih =>
    cases hmet with
    | @cons _ tag _ tags hfirst hrest =>
      obtain ⟨name, markup⟩ := tag
      obtain rfl := hfirst.1
      exact .glued hn hglued (ih hrest)
  | plain hplain _ ih => exact .plain hplain (ih hmet)

theorem Lists.mem {t : TagText} {tags : List MetDirective} (h : Lists directives pieces tags)
    (ht : .directive t ∈ pieces) : (String.ofList t.name, Text.strip t.markup) ∈ tags := by
  induction h with
  | nil => cases ht
  | directive _ _ ih =>
    rcases List.mem_cons.1 ht with heq | ht
    · cases heq
      exact List.mem_cons_self ..
    · exact List.mem_cons_of_mem _ (ih ht)
  | glued _ hglued _ ih =>
    rcases List.mem_cons.1 ht with rfl | ht
    · cases hglued
    · exact List.mem_cons_of_mem _ (ih ht)
  | plain hplain _ ih =>
    rcases List.mem_cons.1 ht with rfl | ht
    · exact absurd rfl (hplain.1 t)
    · exact ih ht

theorem Lists.name_mem {tags : List MetDirective} (h : Lists directives pieces tags) {tag : MetDirective}
    (htag : tag ∈ tags) : tag.1 ∈ directives := by
  induction h with
  | nil => cases htag
  | directive hname _ ih =>
    rcases List.mem_cons.1 htag with rfl | htag
    · exact hname
    · exact ih htag
  | glued hn _ _ ih =>
    rcases List.mem_cons.1 htag with rfl | htag
    · exact hn
    · exact ih htag
  | plain _ _ ih => exact ih htag

/-- The blocks that pieces write begin with names of directives that the pieces use. -/
theorem Writes.uses {blocks : List (String × List Token)} (h : Writes directives pieces blocks) :
    ∀ block ∈ blocks, block.1 ∈ directives ∧ Uses pieces block.1 := by
  have behind {piece : Piece} {pieces : List Piece} {n : String} (h : Uses pieces n) : Uses (piece :: pieces) n :=
    h.imp (fun ⟨t, ht, hn⟩ => ⟨t, List.mem_cons_of_mem _ ht, hn⟩)
      fun ⟨p, hp, hglued⟩ => ⟨p, List.mem_cons_of_mem _ hp, hglued⟩
  induction h with
  | nil => exact fun _ h => absurd h List.not_mem_nil
  | directive hname _ ih =>
    intro block hblock
    rcases List.mem_cons.1 hblock with rfl | hblock
    · exact ⟨hname, .inl ⟨_, List.mem_cons_self .., rfl⟩⟩
    · exact (ih block hblock).imp_right behind
  | glued hn hglued _ ih =>
    intro block hblock
    rcases List.mem_cons.1 hblock with rfl | hblock
    · exact ⟨hn, .inr ⟨_, List.mem_cons_self .., hglued⟩⟩
    · exact (ih block hblock).imp_right behind
  | plain _ _ ih => exact fun block hblock => (ih block hblock).imp_right behind

/-- All the directives of a well-formed source are met, wherever they stand, in the order of the source, if those
whose names it uses have names that are free. -/
theorem WellFormed.lists (ho : o.delimiters = .standard) (hfree : ∀ n ∈ directives, Uses pieces n → IsFree n)
    {source : List Char} (h : WellFormed o directives source pieces) :
    Lists directives pieces (readSource o directives source).2 := by
  have hdirectives : ∀ name ∈ byLength (directives.map String.toList), String.ofList name ∈ directives := by
    intro name hname
    obtain ⟨n, hn, rfl⟩ := List.mem_map.1 (mem_byLength.1 hname)
    rwa [String.ofList_toList]
  have hnames : ∀ t, .directive t ∈ pieces → IsWord t.name ∧ t.name ≠ "raw".toList := by
    intro t ht
    have hname := hfree _ (hdirectives _ (h.tiles.isTag ho ht).name) (.inl ⟨t, ht, rfl⟩)
    have hword := hname.word
    rw [String.toList_ofList] at hword
    exact ⟨hword, fun heq => hname.raw (by rw [heq, String.ofList_toList])⟩
  have hclear := h.tiles.isClear ho hnames h.quiet h.raw
  have hlaid := laid_of_tiles ho h.tiles fun t ht => (hnames t ht).1
  rw [← h.tiles.rewriteTags ho hclear] at hlaid
  obtain ⟨last, hlast, hends, hformed, hread⟩ := tokenize_laid ho hdirectives hlaid fun n hn piece hpiece hglued =>
    (hfree n hn (.inr ⟨piece, hpiece, hglued⟩)).word
  obtain ⟨parts, hparts⟩ := h.reads
  unfold readSource at hparts ⊢
  rw [ho] at hparts ⊢
  obtain ⟨hmet, hgood⟩ := Parser.parse_meets hformed hlast hends hparts
  rcases hread with ⟨fault, hbroken⟩ | hwrites
  · exact absurd hbroken (hgood last (List.mem_of_getLast? hlast) fault)
  · refine hwrites.lists (hmet fun block hblock => ?_)
    obtain ⟨hn, huses⟩ := hwrites.uses block hblock
    exact ⟨(hfree _ hn huses).own, (hfree _ hn huses).ending⟩

end Transclusion.Template

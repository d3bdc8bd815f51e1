import Transclusion.FrontMatter
import Transclusion.Proofs.Configurations
import Transclusion.Proofs.DataFaults
import Transclusion.Proofs.Markup
import Transclusion.Proofs.Paths

/-! Front matter and body.

A document is cut at its first two delimiter lines. Lines are what stands between line
feeds, so cutting a text into lines and joining them again are inverse to each other, and
everything is said about lines: what a list of lines with a block gives (`parse_lines`), and
that a document which begins like one either is such a list or has no closing line
(`exists_closing_or`). The body may hold any lines, delimiters too, because the block ends at
the first of them. That a block is not closed is reported for no other reason, since what
is wrong with the data in it is a fault of data (`parse_splits`). -/
namespace Transclusion

namespace FrontMatter

open Text (splitOn joinWith)

variable {line opening closing : List Char} {block body : List (List Char)} {data : List (Value × Value)}

/-! ### Lines -/

/-- The first line of a document. -/
def firstLine (content : List Char) : List Char := (splitOn '\n' content).headD []

/-- The lines behind the first. -/
def laterLines (content : List Char) : List (List Char) := (splitOn '\n' content).tail

/-- The line is three dashes, with blanks behind them at most. -/
def Opens (line : List Char) : Prop := ∃ blanks, (∀ c ∈ blanks, Text.isBlank c = true) ∧ line = rule ++ blanks

/-- The line is three dashes or three dots, with blanks around them at most. -/
def Delimits (line : List Char) : Prop := Text.strip line = rule ∨ Text.strip line = dots

theorem inked_rule : Text.Inked rule := by
  have hdash : Text.isBlank '-' = false := by decide
  constructor <;>
  · intro c hc
    rwa [← Option.some.inj hc]

theorem isOpening_iff : isOpening line = true ↔ Opens line := by
  unfold isOpening Opens
  rw [Bool.and_eq_true, beq_iff_eq, List.isPrefixOf_iff_prefix]
  constructor
  · rintro ⟨⟨rest, rfl⟩, hstrip⟩
    obtain ⟨lead, trail, hlead, htrail, heq⟩ := Text.exists_strip (rule ++ rest)
    rw [hstrip] at heq
    cases lead with
    | nil => exact ⟨trail, htrail, heq⟩
    | cons c lead =>
      -- a blank cannot stand where the first dash does
      have hc : '-' = c := (List.cons.inj heq).1
      exact absurd (hlead c (List.mem_cons_self ..)) (by rw [← hc]; decide)
  · rintro ⟨blanks, hblanks, rfl⟩
    have hlead : ∀ c ∈ ([] : List Char), Text.isBlank c = true := by simp
    exact ⟨List.prefix_append .., Text.strip_inked hlead inked_rule hblanks⟩

theorem isDelimiter_iff : isDelimiter line = true ↔ Delimits line := by
  simp [isDelimiter, Delimits]

theorem isDelimiter_eq_false_iff : isDelimiter line = false ↔ ¬Delimits line := by
  rw [← isDelimiter_iff, Bool.not_eq_true]

instance : Decidable (Opens line) := decidable_of_iff _ isOpening_iff

instance : Decidable (Delimits line) := decidable_of_iff _ isDelimiter_iff

theorem opens_rule : Opens rule := ⟨[], by simp, rfl⟩

theorem delimits_rule : Delimits rule := .inl inked_rule.strip_eq

/-! ### Sections -/

/-- A block ends at the first delimiter. -/
theorem sections?_lines (hopening : Opens opening) (hblock : ∀ line ∈ block, ¬Delimits line)
    (hclosing : Delimits closing) :
    sections? (opening :: block ++ closing :: body) = .ok (some ⟨block, body⟩) := by
  have hblock' : ∀ line ∈ block, (!isDelimiter line) = true := fun line hline => by
    rw [isDelimiter_eq_false_iff.2 (hblock line hline), Bool.not_false]
  rw [List.cons_append, sections?, if_pos (isOpening_iff.2 hopening), List.dropWhile_append_of_pos hblock',
    List.takeWhile_append_of_pos hblock']
  simp [isDelimiter_iff.2 hclosing]

theorem sections?_unclosed (hopening : Opens opening) (hblock : ∀ line ∈ block, ¬Delimits line) :
    sections? (opening :: block) = .error .unclosedFrontMatter := by
  have hblock' : ∀ line ∈ block, (!isDelimiter line) = true := fun line hline => by
    rw [isDelimiter_eq_false_iff.2 (hblock line hline), Bool.not_false]
  rw [sections?, if_pos (isOpening_iff.2 hopening), List.dropWhile_eq_nil_iff.2 hblock']

theorem sections?_plain (hopening : ¬Opens opening) : sections? (opening :: block) = .ok none := by
  rw [sections?, if_neg (mt isOpening_iff.1 hopening)]

/-- Lines without a delimiter among them, or with a first one. -/
theorem exists_closing_or (lines : List (List Char)) :
    (∀ line ∈ lines, ¬Delimits line) ∨
      ∃ block closing body, lines = block ++ closing :: body ∧ (∀ line ∈ block, ¬Delimits line) ∧
        Delimits closing := by
  induction lines with
  | nil => exact .inl (by simp)
  | cons line rest ih =>
    by_cases hline : Delimits line
    · exact .inr ⟨[], line, rest, rfl, by simp, hline⟩
    · obtain hnone | ⟨block, closing, body, rfl, hblock, hclosing⟩ := ih
      · exact .inl (List.forall_mem_cons.2 ⟨hline, hnone⟩)
      · exact .inr ⟨line :: block, closing, body, rfl, List.forall_mem_cons.2 ⟨hline, hblock⟩, hclosing⟩

/-! ### Data -/

/-- The text of a block is the data of a mapping, or of nothing, for which the mapping is empty. -/
def Gives (text : List Char) (data : List (Value × Value)) : Prop :=
  Yaml.load text = .ok (.dict data) ∨ data = [] ∧ ∃ v, Yaml.load text = .ok v ∧ v.isTruthy = false

theorem entries_eq_ok_iff {text : List Char} : entries text = .ok data ↔ Gives text data := by
  unfold entries Gives
  split
  · next hload => simp [hload]
  · next hload => simp [hload]
  · next v hload =>
    split
    · next own =>
      cases own with
      | nil => simp [hload, Value.isTruthy]
      | cons => simp [hload, Value.isTruthy]
    · next hnot =>
      have hne : v ≠ .dict data := hnot data
      split
      · next htruthy => simp [hload, hne, htruthy]
      · next htruthy => simp [hload, hne, htruthy]

/-- That a block is not closed is none of the faults of its data. -/
theorem entries_ne_unclosed (text : List Char) : entries text ≠ .error .unclosedFrontMatter := by
  unfold entries
  split
  · nofun
  · next fault _ hload =>
    intro h
    have hfault := Yaml.failsBy_load text fault hload
    rw [Except.error.inj h] at hfault
    exact hfault
  · split
    · nofun
    · split <;> nofun

/-! ### Joined lines -/

/-- Lines with a last text behind them, whatever it consists of. -/
theorem joinWith_append (first : List Char) (lines : List (List Char)) {body : List (List Char)} (h : body ≠ []) :
    joinWith '\n' (first :: lines ++ body) = joinWith '\n' (first :: lines ++ [joinWith '\n' body]) := by
  induction lines generalizing first with
  | nil =>
    obtain ⟨line, rest, rfl⟩ := List.exists_cons_of_ne_nil h
    rfl
  | cons line rest ih =>
    show first ++ '\n' :: joinWith '\n' (line :: rest ++ body) = first ++ '\n' :: joinWith '\n' (line :: rest ++ _)
    rw [ih]

/-- Lines before a text are cut off it, whatever it consists of. -/
theorem splitOn_joinWith_append {lines : List (List Char)} (body : List Char) (h : ∀ line ∈ lines, '\n' ∉ line) :
    splitOn '\n' (joinWith '\n' (lines ++ [body])) = lines ++ splitOn '\n' body := by
  induction lines with
  | nil => rfl
  | cons line rest ih =>
    have hline := Text.splitOn_of_not_mem (h line (List.mem_cons_self ..))
    have hrest := ih fun l hl => h l (List.mem_cons_of_mem line hl)
    have hjoin : joinWith '\n' (line :: rest ++ [body]) = line ++ '\n' :: joinWith '\n' (rest ++ [body]) := by
      cases rest <;> rfl
    rw [hjoin, Text.splitOn_append, hline, hrest, List.singleton_append, List.cons_append]

/-! ### Documents -/

theorem parse_plain {content : List Char} (h : ¬Opens (firstLine content)) : parse content = .ok ([], content) := by
  obtain ⟨first, rest, hlines⟩ := List.exists_cons_of_ne_nil (Text.splitOn_ne_nil '\n' content)
  have hfirst : ¬Opens first := by simpa [firstLine, hlines] using h
  rw [parse, hlines, sections?_plain hfirst]
  rfl

/-- The data are those of the block, and the body is all that stands behind the closing line. -/
theorem parse_lines {content : List Char} (hlines : splitOn '\n' content = opening :: block ++ closing :: body)
    (hopening : Opens opening) (hblock : ∀ line ∈ block, ¬Delimits line) (hclosing : Delimits closing) :
    parse content = (entries (joinWith '\n' block)).map fun data => (data, joinWith '\n' body) := by
  rw [parse, hlines, sections?_lines hopening hblock hclosing]
  show (entries (joinWith '\n' block)).bind _ = _
  cases entries (joinWith '\n' block) <;> rfl

theorem parse_unclosed {content : List Char} (h : Opens (firstLine content))
    (hlater : ∀ line ∈ laterLines content, ¬Delimits line) : parse content = .error .unclosedFrontMatter := by
  obtain ⟨first, rest, hlines⟩ := List.exists_cons_of_ne_nil (Text.splitOn_ne_nil '\n' content)
  have hfirst : Opens first := by simpa [firstLine, hlines] using h
  have hrest : ∀ line ∈ rest, ¬Delimits line := by simpa [laterLines, hlines] using hlater
  rw [parse, hlines, sections?_unclosed hfirst hrest]
  rfl

/-- Where a later line is a delimiter, the first such line closes the block. -/
theorem exists_lines {content : List Char} (h : Opens (firstLine content)) {line : List Char}
    (hline : line ∈ laterLines content) (hdelimits : Delimits line) :
    ∃ opening block closing body, splitOn '\n' content = opening :: block ++ closing :: body ∧
      Opens opening ∧ (∀ line ∈ block, ¬Delimits line) ∧ Delimits closing := by
  obtain ⟨first, rest, hlines⟩ := List.exists_cons_of_ne_nil (Text.splitOn_ne_nil '\n' content)
  have hfirst : Opens first := by simpa [firstLine, hlines] using h
  have hrest : line ∈ rest := by simpa [laterLines, hlines] using hline
  obtain hnone | ⟨block, closing, body, rfl, hblock, hclosing⟩ := exists_closing_or rest
  · exact absurd hdelimits (hnone line hrest)
  · exact ⟨first, block, closing, body, hlines, hfirst, hblock, hclosing⟩

theorem parse_eq_unclosed_iff {content : List Char} (h : Opens (firstLine content)) :
    parse content = .error .unclosedFrontMatter ↔ ∀ line ∈ laterLines content, ¬Delimits line := by
  refine ⟨fun herror line hline hdelimits => ?_, parse_unclosed h⟩
  obtain ⟨opening, block, closing, body, hlines, hopening, hblock, hclosing⟩ := exists_lines h hline hdelimits
  rw [parse_lines hlines hopening hblock hclosing] at herror
  cases hentries : entries (joinWith '\n' block) with
  | ok data => simp [hentries, Except.map] at herror
  | error fault =>
    rw [hentries] at herror
    exact entries_ne_unclosed _ (hentries.trans (congrArg _ (Except.error.inj herror)))

/-- A document taken apart into lines and what stands behind them. Where the closing line is the last one,
nothing does. -/
structure Parts (content opening : List Char) (block : List (List Char)) (closing body : List Char) : Prop where
  opens : Opens opening
  noDelimiter : ∀ line ∈ block, ¬Delimits line
  closes : Delimits closing
  lines : ∀ line ∈ opening :: block ++ [closing], '\n' ∉ line
  joined : content = joinWith '\n' (opening :: block ++ [closing, body]) ∨
    body = [] ∧ content = joinWith '\n' (opening :: block ++ [closing])

theorem parts_of_lines {content : List Char} {later : List (List Char)}
    (hlines : splitOn '\n' content = opening :: block ++ closing :: later) (hopening : Opens opening)
    (hblock : ∀ line ∈ block, ¬Delimits line) (hclosing : Delimits closing) :
    Parts content opening block closing (joinWith '\n' later) where
  opens := hopening
  noDelimiter := hblock
  closes := hclosing
  lines line hline := by
    have hmem : line ∈ splitOn '\n' content := by
      rw [hlines]
      simp only [List.cons_append, List.mem_cons, List.mem_append] at hline ⊢
      tauto
    exact Text.not_mem_of_mem_splitOn hmem
  joined := by
    rw [← Text.joinWith_splitOn '\n' content, hlines]
    cases later with
    | nil => exact .inr ⟨rfl, rfl⟩
    | cons line rest =>
      have hjoined := joinWith_append opening (block ++ [closing]) (List.cons_ne_nil line rest)
      simp only [List.cons_append, List.append_assoc, List.nil_append] at hjoined ⊢
      exact .inl hjoined

theorem Parts.splitOn_eq {content : List Char} {body : List Char} (h : Parts content opening block closing body) :
    ∃ later, splitOn '\n' content = opening :: block ++ closing :: later ∧ joinWith '\n' later = body := by
  obtain hjoined | ⟨rfl, hjoined⟩ := h.joined
  · refine ⟨splitOn '\n' body, ?_, Text.joinWith_splitOn ..⟩
    have hsplit := splitOn_joinWith_append body h.lines
    simp only [List.cons_append, List.append_assoc, List.nil_append] at hsplit hjoined ⊢
    rw [hjoined, hsplit]
  · refine ⟨[], ?_, rfl⟩
    rw [hjoined, Text.splitOn_joinWith h.lines (by simp)]

/-- A document with a block has the data of the block, and the body behind it. -/
theorem Parts.parse_eq {content body : List Char} (h : Parts content opening block closing body) :
    parse content = (entries (joinWith '\n' block)).map fun data => (data, body) := by
  obtain ⟨later, hlines, rfl⟩ := h.splitOn_eq
  exact parse_lines hlines h.opens h.noDelimiter h.closes

theorem Parts.parse_eq_ok {content body : List Char} (h : Parts content opening block closing body)
    (hdata : Gives (joinWith '\n' block) data) : parse content = .ok (data, body) := by
  rw [h.parse_eq, entries_eq_ok_iff.2 hdata]
  rfl

/-- A block between two rules, with any text behind it. -/
theorem parts_ruled {text : List Char} (body : List Char) (h : ∀ line ∈ splitOn '\n' text, ¬Delimits line) :
    Parts (rule ++ '\n' :: (text ++ '\n' :: (rule ++ '\n' :: body))) rule (splitOn '\n' text) rule body := by
  have hrule : splitOn '\n' rule = [rule] := rfl
  have hlines : splitOn '\n' (rule ++ '\n' :: (text ++ '\n' :: (rule ++ '\n' :: body))) =
      rule :: splitOn '\n' text ++ rule :: splitOn '\n' body := by
    rw [Text.splitOn_append, Text.splitOn_append, Text.splitOn_append, hrule]
    rfl
  have hparts := parts_of_lines hlines opens_rule h delimits_rule
  rwa [Text.joinWith_splitOn] at hparts

/-- Where a document that begins like one with a block is parsed, it has the parts of one. -/
theorem exists_parts {content body : List Char} (h : Opens (firstLine content))
    (hparse : parse content = .ok (data, body)) :
    ∃ opening block closing, Parts content opening block closing body ∧ Gives (joinWith '\n' block) data := by
  have hclosed : ¬∀ line ∈ laterLines content, ¬Delimits line := fun hnone => by
    rw [parse_unclosed h hnone] at hparse
    cases hparse
  obtain ⟨line, hline, hdelimits⟩ : ∃ line ∈ laterLines content, Delimits line := by simpa using hclosed
  obtain ⟨opening, block, closing, later, hlines, hopening, hblock, hclosing⟩ := exists_lines h hline hdelimits
  have hparts := parts_of_lines hlines hopening hblock hclosing
  rw [hparts.parse_eq] at hparse
  cases hentries : entries (joinWith '\n' block) with
  | error fault =>
    rw [hentries] at hparse
    cases hparse
  | ok own =>
    rw [hentries] at hparse
    cases hparse
    exact ⟨opening, block, closing, hparts, entries_eq_ok_iff.1 hentries⟩

/-- A document that does not begin like one with a block is all body. Of one that does, it is reported that the
block is not closed exactly if no later line is a delimiter; what it is parsed to are the data of a block that
ends at its first delimiter, and what stands behind that. Put between two rules, before any body, a block without
a delimiter gives its data and that body. -/
theorem parse_splits (content : List Char) :
    (¬Opens (firstLine content) → parse content = .ok ([], content)) ∧
      (Opens (firstLine content) →
        (parse content = .error .unclosedFrontMatter ↔ ∀ line ∈ laterLines content, ¬Delimits line) ∧
          ∀ data body, parse content = .ok (data, body) ↔
            ∃ opening block closing, Parts content opening block closing body ∧ Gives (joinWith '\n' block) data) ∧
      ∀ text body data, (∀ line ∈ splitOn '\n' text, ¬Delimits line) → Gives text data →
        parse (rule ++ '\n' :: (text ++ '\n' :: (rule ++ '\n' :: body))) = .ok (data, body) := by
  refine ⟨parse_plain, fun h => ⟨parse_eq_unclosed_iff h, fun data body => ⟨exists_parts h, ?_⟩⟩, ?_⟩
  · rintro ⟨opening, block, closing, hparts, hdata⟩
    exact hparts.parse_eq_ok hdata
  · intro text body data htext hdata
    refine (parts_ruled body htext).parse_eq_ok ?_
    rwa [Text.joinWith_splitOn]

/-- The body begins with what looks like a further block. -/
theorem parse_splits_rules :
    (∀ line ∈ splitOn '\n' "level: 1".toList, ¬Delimits line) ∧
      Gives "level: 1".toList [(.text "level", .int 1)] ∧
      parse "---\nlevel: 1\n---\n---\n...\n".toList = .ok ([(.text "level", .int 1)], "---\n...\n".toList) := by
  have hnone : ∀ line ∈ splitOn '\n' "level: 1".toList, ¬Delimits line := by decide +kernel
  have hdata : Gives "level: 1".toList [(.text "level", .int 1)] :=
    .inl (SiteConfig.eq_of_soleNumber? (by decide +kernel))
  exact ⟨hnone, hdata, (parse_splits []).2.2 "level: 1".toList "---\n...\n".toList _ hnone hdata⟩

end FrontMatter

end Transclusion

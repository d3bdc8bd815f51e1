import Mathlib.Data.List.Induction
import Transclusion.Path

/-! Paths and their texts.

Cutting a text at slashes takes apart what joining puts together, so the printed
form of a path tells the path (`of_text`). What is joined below a path lies below
it part by part (`IsBelow`) unless the text climbs, which is to say that a segment
of it names the parent directory; slashes at either end of a text make no
difference to that. -/
namespace Transclusion

namespace Text

variable {sep : Char}

theorem splitOn_sep (sep : Char) (cs : List Char) : splitOn sep (sep :: cs) = [] :: splitOn sep cs := by
  rw [splitOn, if_pos rfl]

theorem splitOn_cons {c : Char} (h : c ≠ sep) {cs piece : List Char} {pieces : List (List Char)}
    (hs : splitOn sep cs = piece :: pieces) : splitOn sep (c :: cs) = (c :: piece) :: pieces := by
  rw [splitOn, if_neg h, hs]

/-- A text is cut where it is put together with the character between. -/
theorem splitOn_append (a b : List Char) : splitOn sep (a ++ sep :: b) = splitOn sep a ++ splitOn sep b := by
  induction a with
  | nil => exact splitOn_sep sep b
  | cons c cs ih =>
    by_cases h : c = sep
    · subst h
      rw [List.cons_append, splitOn_sep, splitOn_sep, ih, List.cons_append]
    · obtain ⟨piece, pieces, hs⟩ := List.exists_cons_of_ne_nil (splitOn_ne_nil sep cs)
      rw [hs, List.cons_append] at ih
      rw [List.cons_append, splitOn_cons h ih, splitOn_cons h hs, List.cons_append]

theorem splitOn_of_not_mem {piece : List Char} (h : sep ∉ piece) : splitOn sep piece = [piece] := by
  induction piece with
  | nil => rfl
  | cons c cs ih =>
    simp only [List.mem_cons, not_or] at h
    exact splitOn_cons (Ne.symm h.1) (ih h.2)

/-- Cutting at a character takes apart what joining by it puts together. -/
theorem splitOn_joinWith {pieces : List (List Char)} (h : ∀ piece ∈ pieces, sep ∉ piece) (hne : pieces ≠ []) :
    splitOn sep (joinWith sep pieces) = pieces := by
  induction pieces with
  | nil => exact absurd rfl hne
  | cons piece rest ih =>
    have hpiece := splitOn_of_not_mem (h piece (List.mem_cons_self ..))
    cases rest with
    | nil => exact hpiece
    | cons next rest =>
      have hrest := ih (fun p hp => h p (List.mem_cons_of_mem piece hp)) (by simp)
      show splitOn sep (piece ++ sep :: joinWith sep (next :: rest)) = _
      rw [splitOn_append, hpiece, hrest, List.singleton_append]

/-- No piece holds the character that a text is cut at. -/
theorem not_mem_of_mem_splitOn {piece cs : List Char} (h : piece ∈ splitOn sep cs) : sep ∉ piece := by
  induction cs generalizing piece with
  | nil =>
    rw [splitOn, List.mem_singleton] at h
    rw [h]
    exact List.not_mem_nil
  | cons c rest ih =>
    obtain ⟨first, more, hsplit⟩ := List.exists_cons_of_ne_nil (splitOn_ne_nil sep rest)
    by_cases hc : c = sep
    · subst hc
      rw [splitOn_sep] at h
      rcases List.mem_cons.1 h with rfl | h
      · exact List.not_mem_nil
      · exact ih h
    · rw [splitOn_cons hc hsplit] at h
      rw [hsplit] at ih
      rcases List.mem_cons.1 h with rfl | h
      · have hfirst := ih (List.mem_cons_self ..)
        simp [Ne.symm hc, hfirst]
      · exact ih (List.mem_cons_of_mem first h)

/-- Every piece of a text stands in it. -/
theorem infix_of_mem_splitOn {piece cs : List Char} (h : piece ∈ splitOn sep cs) : piece <:+: cs := by
  rw [← joinWith_splitOn sep cs]
  generalize splitOn sep cs = pieces at h
  induction pieces with
  | nil => simp at h
  | cons first rest ih =>
    cases rest with
    | nil => rw [List.mem_singleton.1 h]; exact List.infix_refl _
    | cons next rest =>
      show piece <:+: first ++ sep :: joinWith sep (next :: rest)
      rcases List.mem_cons.1 h with rfl | hmem
      · exact (List.prefix_append ..).isInfix
      · obtain ⟨s, t, hst⟩ := ih hmem
        exact ⟨first ++ sep :: s, t, by rw [← hst]; simp⟩

end Text

namespace Path

theorem names_segments {names : List (List Char)} {segments : List Segment}
    (h : segments.map Segment.name = names) : names.filterMap Segment.of? = segments := by
  subst h
  induction segments with
  | nil => rfl
  | cons s rest ih => rw [List.map_cons, List.filterMap_cons, Segment.of?_name, ih]

/-- The segments of the joined names of segments. -/
theorem segmentsOf_joinWith (segments : List Segment) :
    segmentsOf (Text.joinWith '/' (segments.map Segment.name)) = segments := by
  cases segments with
  | nil => rfl
  | cons s rest =>
    have hslash : ∀ piece ∈ (s :: rest).map Segment.name, '/' ∉ piece := by
      intro piece hp
      obtain ⟨t, -, rfl⟩ := List.mem_map.1 hp
      have := t.proper
      simp only [isSegment, decide_eq_true_eq] at this
      exact this.2.2
    unfold segmentsOf
    rw [Text.splitOn_joinWith hslash (by simp)]
    exact names_segments rfl

theorem segmentsOf_slash (cs : List Char) : segmentsOf ('/' :: cs) = segmentsOf cs := by
  unfold segmentsOf
  rw [Text.splitOn_sep]
  rfl

/-- Joined names do not begin with a slash. -/
theorem joinWith_ne_slash (segments : List Segment) (cs : List Char) :
    Text.joinWith '/' (segments.map Segment.name) ≠ '/' :: cs := by
  cases segments with
  | nil => simp [Text.joinWith]
  | cons s rest =>
    have hs := s.proper
    simp only [isSegment, decide_eq_true_eq] at hs
    obtain ⟨c, name, hname⟩ := List.exists_cons_of_ne_nil hs.1
    have hc : c ≠ '/' := fun h => hs.2.2 (by rw [hname, h]; exact List.mem_cons_self ..)
    rw [List.map_cons, hname]
    cases rest with
    | nil => exact fun h => hc (List.cons.inj h).1
    | cons t rest => exact fun h => hc (List.cons.inj h).1

/-- As many slashes as stand before a text that begins with none make its anchor. -/
theorem anchor_of_text {cs : List Char} (h : ∀ rest, cs ≠ '/' :: rest) :
    Anchor.of cs = .here ∧ Anchor.of ('/' :: cs) = .root ∧ Anchor.of ('/' :: '/' :: cs) = .doubleRoot := by
  cases cs with
  | nil => exact ⟨rfl, rfl, rfl⟩
  | cons c rest =>
    have hc : c ≠ '/' := fun he => h rest (by rw [he])
    refine ⟨?_, ?_, ?_⟩ <;> simp [Anchor.of, hc]

/-- The printed form of a path tells the path. -/
theorem of_text (p : Path) : of p.text = p := by
  obtain ⟨anchor, segments⟩ := p
  have hsegments := segmentsOf_joinWith segments
  obtain ⟨hhere, hroot, hdouble⟩ := anchor_of_text (joinWith_ne_slash segments)
  cases anchor with
  | here =>
    cases segments with
    | nil => rfl  -- printed as a dot, which is no segment
    | cons s rest =>
      show of (Text.joinWith '/' ((s :: rest).map Segment.name)) = _
      rw [of, hhere, hsegments]
  | root =>
    show of ('/' :: Text.joinWith '/' (segments.map Segment.name)) = _
    rw [of, hroot, segmentsOf_slash, hsegments]
  | doubleRoot =>
    show of ('/' :: '/' :: Text.joinWith '/' (segments.map Segment.name)) = _
    rw [of, hdouble, segmentsOf_slash, segmentsOf_slash, hsegments]

/-- So does the printed form as a string. -/
theorem ofString_toString (p : Path) : ofString p.toString = p := by
  rw [ofString, toString, String.toList_ofList, of_text]

theorem toString_injective {p q : Path} (h : p.toString = q.toString) : p = q := by
  rw [← ofString_toString p, h, ofString_toString]

/-! ### Leading down -/

/-- Some segment of a text names the parent directory. -/
def Climbs (cs : List Char) : Prop := ['.', '.'] ∈ Text.splitOn '/' cs

theorem climbs_append (a b : List Char) : Climbs (a ++ '/' :: b) ↔ Climbs a ∨ Climbs b := by
  rw [Climbs, Text.splitOn_append, List.mem_append]
  rfl

theorem not_climbs_nil : ¬Climbs [] := by simp [Climbs, Text.splitOn]

theorem climbs_slash (cs : List Char) : Climbs ('/' :: cs) ↔ Climbs cs := by
  rw [← List.nil_append ('/' :: cs), climbs_append]
  exact or_iff_right not_climbs_nil

theorem climbs_dropWhile (cs : List Char) : Climbs (cs.dropWhile (· == '/')) ↔ Climbs cs := by
  induction cs with
  | nil => rfl
  | cons c rest ih =>
    by_cases h : c = '/'
    · subst h
      rw [climbs_slash]
      exact ih
    · rw [List.dropWhile_cons_of_neg (by simpa using h)]

theorem climbs_dropEndWhile (cs : List Char) : Climbs (Text.dropEndWhile (· == '/') cs) ↔ Climbs cs := by
  induction cs using List.reverseRecOn with
  | nil => rfl
  | append_singleton rest c ih =>
    by_cases h : c = '/'
    · subst h
      rw [Text.dropEndWhile_append_singleton_of_pos rfl, ih, climbs_append]
      exact (or_iff_left not_climbs_nil).symm
    · rw [Text.dropEndWhile_append_singleton_of_neg (by simpa using h)]

/-- A path is another one's or lies below it: behind the other's parts there are further names, none of
which is empty or names its own directory or the parent. -/
def IsBelow (root p : Path) : Prop :=
  ∃ names, p.parts = root.parts ++ names ∧ ∀ name ∈ names, name ≠ [] ∧ name ≠ ['.'] ∧ name ≠ ['.', '.']

theorem IsBelow.refl (p : Path) : IsBelow p p := ⟨[], by simp, by simp⟩

theorem IsBelow.trans {p q r : Path} (h : IsBelow p q) (h' : IsBelow q r) : IsBelow p r := by
  obtain ⟨names, hq, hnames⟩ := h
  obtain ⟨more, hr, hmore⟩ := h'
  refine ⟨names ++ more, by rw [hr, hq, List.append_assoc], fun name hn => ?_⟩
  exact (List.mem_append.1 hn).elim (hnames name) (hmore name)

theorem parts_append (anchor : Anchor) (segments more : List Segment) :
    parts ⟨anchor, segments ++ more⟩ = parts ⟨anchor, segments⟩ ++ more.map Segment.name := by
  cases anchor <;> simp [parts, names]

/-- What is joined below a path lies below it, unless the text climbs. -/
theorem isBelow_below (p : Path) {cs : List Char} (h : ¬Climbs cs) : IsBelow p (p.below cs) := by
  refine ⟨_, by rw [below_eq, parts_append], fun name hn => ?_⟩
  obtain ⟨s, hs, rfl⟩ := List.mem_map.1 hn
  have hproper := s.proper
  simp only [isSegment, decide_eq_true_eq] at hproper
  refine ⟨hproper.1, hproper.2.1, fun hparent => h ?_⟩
  obtain ⟨piece, hpiece, hof⟩ := List.mem_filterMap.1 hs
  rw [← climbs_dropWhile, Climbs, ← hparent, Segment.of?_eq_some hof]
  exact hpiece

end Path

end Transclusion

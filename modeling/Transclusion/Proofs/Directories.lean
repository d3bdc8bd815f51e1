import Mathlib.Data.List.Basic
import Mathlib.Data.List.TakeDrop
import Mathlib.Data.List.TakeWhile
import Transclusion.Proofs.Paths
import Transclusion.Directive.Strategy
import Transclusion.Site.Load

/-! Where documents lie.

The directory of a document is found by cutting its stored path at the last slash; the
path under which it is stored is found by joining below the source. What is joined there
adds its pieces to the parts of the source and takes the place of none (`inSource_adds`).
The segments of a text decide both paths (`below_eq_segments`), and slashes, wherever
they are, make no difference to segments, so the two agree for every document whose path
ends with a name (`directory_eq_parent`). An excerpt is stored under a marked path, and
only one mark is taken off again: the excerpt of a document lies where the document does,
but that of an excerpt lies one level down (`directory_excerpts_iff`). -/
namespace Transclusion

/-! ### Results -/

namespace Result
variable {ε δ α β : Type}

theorem bind_eq_ok_iff {x : Except ε α} {f : α → Except ε β} {b : β} :
    x >>= f = .ok b ↔ ∃ a, x = .ok a ∧ f a = .ok b := by
  cases x <;> simp [bind, Except.bind]

theorem mapError_eq_ok_iff {x : Except ε α} {f : ε → δ} {a : α} : x.mapError f = .ok a ↔ x = .ok a := by
  cases x with
  | error => exact iff_of_false nofun nofun
  | ok => exact ⟨fun h => congrArg _ (Except.ok.inj h), fun h => congrArg _ (Except.ok.inj h)⟩

end Result

/-! ### Segments of texts -/

namespace Text

variable {sep : Char} {before after cs : List Char}

theorem cutAtLast?_of_not_mem (h : sep ∉ cs) : cutAtLast? sep cs = none := by
  have hall : ∀ c ∈ cs.reverse, (decide (c ≠ sep)) = true :=
    fun c hc => decide_eq_true fun he => h (he ▸ List.mem_reverse.1 hc)
  unfold cutAtLast?
  rw [List.span_eq_takeWhile_dropWhile, List.dropWhile_eq_nil_iff.2 hall]

theorem cutAtLast?_append (h : sep ∉ after) (before : List Char) :
    cutAtLast? sep (before ++ sep :: after) = some (before, after) := by
  have hall : ∀ c ∈ after.reverse, (decide (c ≠ sep)) = true :=
    fun c hc => decide_eq_true fun he => h (he ▸ List.mem_reverse.1 hc)
  have hreverse : (before ++ sep :: after).reverse = after.reverse ++ sep :: before.reverse := by simp
  unfold cutAtLast?
  rw [hreverse, List.span_eq_takeWhile_dropWhile, List.takeWhile_append_of_pos hall,
    List.dropWhile_append_of_pos hall]
  simp

/-- A text with a character in it ends with a text without it. -/
theorem exists_last (h : sep ∈ cs) : ∃ before after, cs = before ++ sep :: after ∧ sep ∉ after := by
  obtain ⟨after, before, hreverse, hafter⟩ := List.eq_append_cons_of_mem (List.mem_reverse.2 h)
  refine ⟨before.reverse, after.reverse, ?_, mt List.mem_reverse.1 hafter⟩
  rw [← List.reverse_reverse cs, hreverse]
  simp

end Text

/-- A piece between slashes is no segment if it is empty or names its own directory. -/
theorem Segment.of?_eq_none_iff {cs : List Char} (h : '/' ∉ cs) : Segment.of? cs = none ↔ cs = [] ∨ cs = ['.'] := by
  unfold Segment.of? isSegment
  by_cases hempty : cs = [] <;> by_cases hdot : cs = ['.'] <;> simp [hempty, hdot, h]

namespace Path

/-- What stands behind the last slash of a text. -/
def lastPiece (cs : List Char) : List Char := (Text.splitOn '/' cs).getLast (Text.splitOn_ne_nil '/' cs)

theorem lastPiece_of_not_mem {cs : List Char} (h : '/' ∉ cs) : lastPiece cs = cs := by
  simp only [lastPiece, Text.splitOn_of_not_mem h, List.getLast_singleton]

theorem lastPiece_append (a b : List Char) : lastPiece (a ++ '/' :: b) = lastPiece b := by
  simp only [lastPiece, Text.splitOn_append, List.getLast_append_of_ne_nil _ (Text.splitOn_ne_nil '/' b)]

theorem slash_not_mem_lastPiece (cs : List Char) : '/' ∉ lastPiece cs := by
  by_cases h : '/' ∈ cs
  · obtain ⟨before, after, rfl, hafter⟩ := Text.exists_last h
    rwa [lastPiece_append, lastPiece_of_not_mem hafter]
  · rwa [lastPiece_of_not_mem h]

theorem segmentsOf_append (a b : List Char) : segmentsOf (a ++ '/' :: b) = segmentsOf a ++ segmentsOf b := by
  rw [segmentsOf, Text.splitOn_append, List.filterMap_append]
  rfl

theorem segmentsOf_of_not_mem {cs : List Char} (h : '/' ∉ cs) : segmentsOf cs = (Segment.of? cs).toList := by
  rw [segmentsOf, Text.splitOn_of_not_mem h]
  cases hof : Segment.of? cs <;> simp [hof]

theorem segmentsOf_withoutLeadingSlashes (cs : List Char) :
    segmentsOf (withoutLeadingSlashes cs) = segmentsOf cs := by
  induction cs with
  | nil => rfl
  | cons c rest ih =>
    by_cases h : c = '/'
    · subst h
      rw [segmentsOf_slash]
      exact ih
    · rw [withoutLeadingSlashes, List.dropWhile_cons_of_neg (by simpa using h)]

theorem segmentsOf_dropEndWhile (cs : List Char) :
    segmentsOf (Text.dropEndWhile (· == '/') cs) = segmentsOf cs := by
  induction cs using List.reverseRecOn with
  | nil => rfl
  | append_singleton rest c ih =>
    by_cases h : c = '/'
    · subst h
      rw [Text.dropEndWhile_append_singleton_of_pos rfl, ih, segmentsOf_append]
      exact (List.append_nil _).symm
    · rw [Text.dropEndWhile_append_singleton_of_neg (by simpa using h)]

/-- Slashes at either end of a text do not count. -/
theorem segmentsOf_trim (cs : List Char) : segmentsOf (Text.trim (· == '/') cs) = segmentsOf cs := by
  rw [Text.trim, segmentsOf_dropEndWhile]
  exact segmentsOf_withoutLeadingSlashes cs

/-- Below a path, a text adds its segments. -/
theorem below_eq_segments (p : Path) (cs : List Char) : p.below cs = ⟨p.anchor, p.segments ++ segmentsOf cs⟩ := by
  rw [below_eq, segmentsOf_withoutLeadingSlashes]

/-- Texts that are joined one after another add their segments in that order. -/
theorem belowAll_eq (p : Path) (texts : List (List Char)) :
    p.belowAll texts = ⟨p.anchor, p.segments ++ texts.flatMap segmentsOf⟩ := by
  induction texts generalizing p with
  | nil => simp [belowAll]
  | cons cs rest ih =>
    show (p.below cs).belowAll rest = _
    rw [ih, below_eq_segments, List.flatMap_cons, List.append_assoc]

/-- What stands between the slashes of a text and counts: not nothing, and not a dot. -/
def piecesThatCount (cs : List Char) : List (List Char) :=
  (Text.splitOn '/' cs).filter fun piece => piece ≠ [] ∧ piece ≠ ['.']

/-- A piece without a slash is a segment exactly if it counts. -/
theorem map_name_of? {piece : List Char} (h : '/' ∉ piece) :
    (Segment.of? piece).map Segment.name = if piece ≠ [] ∧ piece ≠ ['.'] then some piece else none := by
  cases hof : Segment.of? piece with
  | none =>
    have hnone := (Segment.of?_eq_none_iff h).1 hof
    rw [if_neg fun hcounts => hnone.elim hcounts.1 hcounts.2]
    rfl
  | some s =>
    have hcounts : ¬(piece = [] ∨ piece = ['.']) :=
      mt (Segment.of?_eq_none_iff h).2 (by rw [hof]; exact Option.some_ne_none s)
    rw [if_pos (not_or.1 hcounts), Option.map_some, Segment.of?_eq_some hof]

theorem map_name_segmentsOf (cs : List Char) : (segmentsOf cs).map Segment.name = piecesThatCount cs := by
  have hslash : ∀ piece ∈ Text.splitOn '/' cs, '/' ∉ piece := fun _ => Text.not_mem_of_mem_splitOn
  unfold segmentsOf piecesThatCount
  generalize Text.splitOn '/' cs = pieces at hslash
  rw [List.map_filterMap, ← List.filterMap_eq_filter]
  refine List.filterMap_congr fun piece hpiece => ?_
  rw [map_name_of? (hslash piece hpiece), Option.guard]
  simp only [decide_eq_true_eq]

theorem below_inj (p : Path) {a b : List Char} : p.below a = p.below b ↔ segmentsOf a = segmentsOf b := by
  rw [below_eq_segments, below_eq_segments, Path.mk.injEq, List.append_cancel_left_eq]
  exact and_iff_right rfl

end Path

open Transclusion.Path (lastPiece segmentsOf_append below_eq_segments below_inj)

namespace Site

theorem inSource_single (site : Site) (part : String) : site.inSource [part] = site.source.below part.toList := rfl

/-- Joining two texts below the source is joining them with a slash between. -/
theorem inSource_pair (site : Site) (first second : String) :
    site.inSource [first, second] = site.source.below (first.toList ++ '/' :: second.toList) := by
  show (site.source.below first.toList).below second.toList = _
  simp only [below_eq_segments, segmentsOf_append, List.append_assoc]

theorem inSource_eq (site : Site) (parts : List String) :
    site.inSource parts =
      ⟨site.source.anchor, site.source.segments ++ parts.flatMap fun part => segmentsOf part.toList⟩ := by
  rw [inSource, Path.belowAll_eq, List.flatMap_map]

theorem parts_inSource (site : Site) (parts : List String) :
    (site.inSource parts).parts =
      site.source.parts ++ parts.flatMap fun part => Path.piecesThatCount part.toList := by
  rw [inSource_eq, Path.parts_append, List.map_flatMap]
  simp only [Path.map_name_segmentsOf]

/-- What is joined below the source adds its pieces to the parts of the source, one part after another; only
empty pieces and single dots are left out, and the name of the parent directory counts like any other. So no
part takes the place of the source or of a part of it, with whatever slashes it begins, not even the printed
form of another path; two parts are joined as one with a slash between; and parts that do not climb stay below
the source. -/
theorem inSource_adds (site : Site) (parts : List String) :
    (site.inSource parts).anchor = site.source.anchor ∧
    (site.inSource parts).parts =
      site.source.parts ++ parts.flatMap (fun part => Path.piecesThatCount part.toList) ∧
    site.source.parts <+: (site.inSource parts).parts ∧
    (∀ p : Path, (site.inSource [p.toString]).parts = site.source.parts ++ p.names) ∧
    (∀ first second, site.inSource [first, second] = site.inSource [first ++ "/" ++ second]) ∧
    ((∀ part ∈ parts, ¬Path.Climbs part.toList) → Path.IsBelow site.source (site.inSource parts)) := by
  have hparts := site.parts_inSource parts
  refine ⟨?_, hparts, ⟨_, hparts.symm⟩, fun p => ?_, fun first second => ?_, fun h => ⟨_, hparts, ?_⟩⟩
  · rw [inSource_eq]
  · -- The printed form of a path tells the path, so its pieces are the names of it.
    have hprinted : Path.ofString p.toString = p := Path.ofString_toString p
    rw [parts_inSource, List.flatMap_singleton, ← Path.map_name_segmentsOf]
    exact congrArg (fun q => site.source.parts ++ Path.names q) hprinted
  · rw [inSource_pair, inSource_single, String.toList_append, String.toList_append, List.append_assoc]
    rfl
  · intro name hname
    obtain ⟨part, hpart, hpiece⟩ := List.mem_flatMap.1 hname
    obtain ⟨hmem, hcounts⟩ := List.mem_filter.1 hpiece
    obtain ⟨hempty, hdot⟩ := of_decide_eq_true hcounts
    refine ⟨hempty, hdot, fun hparent => h part hpart ?_⟩
    rw [Path.Climbs, ← hparent]
    exact hmem

-- Slashes at the front, dots and an empty part; the parent directory is named and stays.
example :
    let site : Site := ⟨⟨.ofString "//site/", [], [], "", "utf-8", "\n\n", []⟩⟩
    site.inSource ["///about//./", "", "..", "/team"] = .ofString "//site/about/../team" := by decide +kernel

end Site

/-! ### Documents -/

namespace Document

variable {site : Site} {d e : Document} {cs : List Char}

/-- The text before the last slash and the one behind it have all the segments of a text. -/
theorem segmentsOf_eq (cs : List Char) :
    segmentsOf cs = segmentsOf (beforeLastSlash cs) ++ (Segment.of? (lastPiece cs)).toList := by
  by_cases h : '/' ∈ cs
  · obtain ⟨before, after, rfl, hafter⟩ := Text.exists_last h
    rw [beforeLastSlash, Text.cutAtLast?_append hafter, Path.lastPiece_append,
      Path.lastPiece_of_not_mem hafter, segmentsOf_append, Path.segmentsOf_of_not_mem hafter]
  · rw [beforeLastSlash, Text.cutAtLast?_of_not_mem h, Path.lastPiece_of_not_mem h,
      Path.segmentsOf_of_not_mem h]
    rfl

theorem beforeLastSlash_marked (cs : List Char) : beforeLastSlash (cs ++ excerptMarker) = cs := by
  have hname : '/' ∉ "#excerpt".toList := by decide
  rw [beforeLastSlash, show cs ++ excerptMarker = cs ++ '/' :: "#excerpt".toList from rfl,
    Text.cutAtLast?_append hname]

theorem withoutMarker_marked (cs : List Char) : withoutMarker (cs ++ excerptMarker) = cs := by
  rw [withoutMarker, if_pos (List.isSuffixOf_iff_suffix.2 (List.suffix_append cs excerptMarker)),
    List.length_append, Nat.add_sub_cancel, List.take_left]

theorem withoutMarker_eq_self (h : ¬excerptMarker <:+ cs) : withoutMarker cs = cs := by
  rw [withoutMarker, if_neg (mt List.isSuffixOf_iff_suffix.1 h)]

theorem lastPiece_marked (cs : List Char) : lastPiece (cs ++ excerptMarker) = "#excerpt".toList :=
  (Path.lastPiece_append cs "#excerpt".toList).trans (Path.lastPiece_of_not_mem (by decide))

theorem directory_eq (site : Site) (d : Document) :
    d.directory site = site.source.below (beforeLastSlash (withoutMarker (d.resourcePath site))) := by
  rw [directory, Site.inSource_single, String.toList_ofList]

/-- A document is stored below the source under the path that its directory is cut from. -/
theorem documentPath_eq (site : Site) (d : Document) :
    site.documentPath d.relativePath d.collection = site.source.below (d.resourcePath site) := by
  unfold Site.documentPath resourcePath
  cases d.collection with
  | none => rfl
  | some name =>
    have hcontainer := Path.segmentsOf_trim site.config.collectionsDir.toList
    simp only [Site.inSource_pair, below_inj, segmentsOf_append]
    split
    · next h =>
      rw [h] at hcontainer
      rw [← hcontainer]
      rfl
    · rw [segmentsOf_append, hcontainer]

/-- The directory of collections does not change what a path ends with. -/
theorem lastPiece_resourcePath (site : Site) (d : Document) :
    lastPiece (d.resourcePath site) = lastPiece d.relativePath.toList := by
  unfold resourcePath
  cases d.collection with
  | none => rfl
  | some name =>
    simp only
    split
    · rfl
    · exact Path.lastPiece_append ..

/-- A document whose path ends with a name is not taken for an excerpt: it lies where it is stored, under
that name. -/
theorem documentPath_eq_directory {last : Segment} (hlast : lastPiece d.relativePath.toList = last.name)
    (hmarker : last.name ≠ "#excerpt".toList) :
    site.documentPath d.relativePath d.collection =
      ⟨(d.directory site).anchor, (d.directory site).segments ++ [last]⟩ := by
  have hunmarked : ¬excerptMarker <:+ d.resourcePath site := by
    rintro ⟨before, hbefore⟩
    have hpiece := lastPiece_resourcePath site d
    rw [← hbefore, lastPiece_marked, hlast] at hpiece
    exact hmarker hpiece.symm
  have hsegments := segmentsOf_eq (d.resourcePath site)
  rw [lastPiece_resourcePath, hlast, Segment.of?_name] at hsegments
  rw [documentPath_eq, directory_eq, withoutMarker_eq_self hunmarked, below_eq_segments, below_eq_segments,
    hsegments, List.append_assoc]
  rfl

end Document

/-- A document that was loaded was read where it is stored. -/
theorem Site.read_of_load {site : Site} {files : Files} {relativePath : String} {collection : Option String}
    {d : Document} (h : site.load files relativePath collection = .ok d) :
    d.relativePath = relativePath ∧ d.collection = collection ∧
      ∃ bytes, files.read (site.documentPath relativePath collection) = .ok bytes := by
  obtain ⟨bytes, hread, h⟩ := Result.bind_eq_ok_iff.1 h
  obtain ⟨text, -, h⟩ := Result.bind_eq_ok_iff.1 h
  obtain ⟨parts, -, h⟩ := Result.bind_eq_ok_iff.1 h
  cases h
  exact ⟨rfl, rfl, bytes, Result.mapError_eq_ok_iff.1 hread⟩

namespace Document

variable {site : Site} {d e : Document} {cs : List Char}

/-- A relative directive searches where the document was loaded from. For every site, and every document
whose stored path ends with a name other than the mark of an excerpt, the one directory that is searched is
the directory that holds the path under which the document is stored; and so it is for a document that was
loaded, which was read under that path. -/
theorem directory_eq_parent (site : Site) (d : Document) (hempty : lastPiece d.relativePath.toList ≠ [])
    (hdot : lastPiece d.relativePath.toList ≠ ['.'])
    (hmarker : lastPiece d.relativePath.toList ≠ "#excerpt".toList) :
    let stored := site.documentPath d.relativePath d.collection
    d.directory site = stored.parent ∧
      Directive.Strategy.documentDirectory.roots site (some d) = [stored.parent.toString] ∧
      ∀ files loaded, site.load files d.relativePath d.collection = .ok loaded →
        loaded.directory site = stored.parent ∧ ∃ bytes, files.read stored = .ok bytes := by
  have hproper : isSegment (lastPiece d.relativePath.toList) = true :=
    decide_eq_true ⟨hempty, hdot, Path.slash_not_mem_lastPiece _⟩
  intro stored
  let last : Segment := ⟨lastPiece d.relativePath.toList, hproper⟩
  have hdirectory : ∀ other : Document, other.relativePath = d.relativePath → other.collection = d.collection →
      other.directory site = stored.parent := by
    intro other hpath hcollection
    have hlast : lastPiece other.relativePath.toList = last.name := by rw [hpath]
    have hstored : stored = ⟨(other.directory site).anchor, (other.directory site).segments ++ [last]⟩ := by
      rw [← documentPath_eq_directory hlast hmarker, hpath, hcollection]
    rw [Path.parent, hstored, List.dropLast_concat]
  have hd := hdirectory d rfl rfl
  refine ⟨hd, ?_, fun files loaded hload => ?_⟩
  · rw [← hd]
    rfl
  · obtain ⟨hpath, hcollection, hread⟩ := Site.read_of_load hload
    exact ⟨hdirectory loaded hpath hcollection, hread⟩

/-- Slashes stand at both ends of the directory of collections and before the path of the document. -/
theorem directory_eq_parent_slashed :
    let site : Site := ⟨⟨.ofString "//site/", [], [], "//_posts/", "utf-8", "\n\n", []⟩⟩
    let d : Document := ⟨"/2024//a.md", some "posts", [], ""⟩
    lastPiece d.relativePath.toList = "a.md".toList ∧
      d.directory site = (site.documentPath d.relativePath d.collection).parent ∧
      d.directory site = .ofString "//site/_posts/2024" := by
  intro site d
  have hlast : lastPiece d.relativePath.toList = "a.md".toList := by decide +kernel
  have hparent := directory_eq_parent site d (by rw [hlast]; decide) (by rw [hlast]; decide)
    (by rw [hlast]; decide)
  exact ⟨hlast, hparent.1, by decide +kernel⟩

/-! ### Excerpts -/

/-- The excerpt of the excerpt and so on of a document, a separator for each. -/
def excerpts (d : Document) (separators : List String) : Except Fault Document := separators.foldlM excerpt d

/-- As many marks as excerpts were taken. -/
def marks (n : Nat) : List Char := (List.replicate n excerptMarker).flatten

theorem marks_succ (n : Nat) : marks (n + 1) = marks n ++ excerptMarker := by
  rw [marks, List.replicate_succ', List.flatten_append, List.flatten_singleton, marks]

theorem marks_succ_left (n : Nat) : marks (n + 1) = excerptMarker ++ marks n := rfl

/-- The name that a mark ends a path with. -/
def markedName : Segment := ⟨"#excerpt".toList, by decide⟩

theorem segmentsOf_marked (cs : List Char) : segmentsOf (cs ++ excerptMarker) = segmentsOf cs ++ [markedName] :=
  segmentsOf_append cs "#excerpt".toList

/-- A document has an excerpt for every separator but the empty one; its path is marked. -/
theorem excerpt_eq_ok {separator : String} (h : separator ≠ "") (d : Document) :
    ∃ e, d.excerpt separator = .ok e ∧ e.collection = d.collection ∧
      e.relativePath.toList = d.relativePath.toList ++ excerptMarker := by
  rw [excerpt, if_neg h]
  exact ⟨_, rfl, rfl, String.toList_ofList⟩

theorem excerpts_eq_ok {separators : List String} (h : ∀ separator ∈ separators, separator ≠ "") (d : Document) :
    ∃ e, d.excerpts separators = .ok e ∧ e.collection = d.collection ∧
      e.relativePath.toList = d.relativePath.toList ++ marks separators.length := by
  induction separators generalizing d with
  | nil => exact ⟨d, rfl, rfl, (List.append_nil _).symm⟩
  | cons separator rest ih =>
    obtain ⟨first, hfirst, hcollection, hpath⟩ := excerpt_eq_ok (h separator (List.mem_cons_self ..)) d
    obtain ⟨e, he, hcollection', hpath'⟩ := ih (fun s hs => h s (List.mem_cons_of_mem separator hs)) first
    refine ⟨e, ?_, hcollection'.trans hcollection, ?_⟩
    · rw [excerpts, List.foldlM_cons, hfirst]
      exact he
    · rw [hpath', hpath, List.append_assoc, List.length_cons, marks_succ_left]

theorem resourcePath_append (site : Site) {d e : Document} {more : List Char}
    (hcollection : e.collection = d.collection)
    (hpath : e.relativePath.toList = d.relativePath.toList ++ more) :
    e.resourcePath site = d.resourcePath site ++ more := by
  unfold resourcePath
  rw [hcollection, hpath]
  cases d.collection with
  | none => rfl
  | some name =>
    simp only
    split
    · rfl
    · rw [List.append_assoc, List.cons_append]

/-- Of the marks of an excerpt, one is taken off, and the directory cut before the next one. -/
theorem directory_marked {n : Nat} (h : e.resourcePath site = d.resourcePath site ++ marks (n + 1)) :
    e.directory site = site.source.below (beforeLastSlash (d.resourcePath site ++ marks n)) := by
  rw [directory_eq, h, marks_succ, ← List.append_assoc, withoutMarker_marked]

/-- The text ends without a name, behind a slash or with a dot. -/
def EndsNameless (cs : List Char) : Prop := lastPiece cs = [] ∨ lastPiece cs = ['.']

theorem segmentsOf_before_iff : segmentsOf (beforeLastSlash cs) = segmentsOf cs ↔ EndsNameless cs := by
  rw [segmentsOf_eq cs, List.self_eq_append_right, Option.toList_eq_nil_iff,
    Segment.of?_eq_none_iff (Path.slash_not_mem_lastPiece cs), EndsNameless]

theorem length_segmentsOf_before (cs : List Char) :
    (segmentsOf (beforeLastSlash cs)).length ≤ (segmentsOf cs).length := by
  rw [segmentsOf_eq cs, List.length_append]
  exact Nat.le_add_right ..

/-- A path has no fewer segments than what its directory is cut from. -/
theorem length_segmentsOf_directory (cs : List Char) :
    (segmentsOf (beforeLastSlash (withoutMarker cs))).length ≤ (segmentsOf cs).length := by
  by_cases h : excerptMarker <:+ cs
  · obtain ⟨before, rfl⟩ := h
    rw [withoutMarker_marked, segmentsOf_marked, List.length_append]
    exact (length_segmentsOf_before before).trans (Nat.le_add_right ..)
  · rw [withoutMarker_eq_self h]
    exact length_segmentsOf_before cs

theorem append_marks_zero (cs : List Char) : cs ++ marks 0 = cs := List.append_nil cs

theorem length_segmentsOf_marks (cs : List Char) (n : Nat) :
    (segmentsOf (cs ++ marks n)).length = (segmentsOf cs).length + n := by
  induction n with
  | zero => rw [append_marks_zero, Nat.add_zero]
  | succ n ih => rw [marks_succ, ← List.append_assoc, segmentsOf_marked, List.length_append, ih]; rfl

/-- Where taking excerpts moves a document. The first excerpt lies in the document's directory exactly unless
the path of the document below the source ends with the mark of an excerpt behind a name. The second one
lies in a directory that is named by that path, and each further one in a directory below, that is named by
the mark. So the second one lies in the document's directory exactly if the path ends neither with the mark
nor with a name, and no further one does. -/
theorem directory_excerpts_iff (site : Site) (d : Document) (separators : List String)
    (h : ∀ separator ∈ separators, separator ≠ "") :
    ∃ e, d.excerpts separators = .ok e ∧
      (separators.length = 1 →
        (e.directory site = d.directory site ↔
          (excerptMarker <:+ d.resourcePath site → EndsNameless (withoutMarker (d.resourcePath site))))) ∧
      (∀ n, separators.length = n + 2 → e.directory site = site.source.below (d.resourcePath site ++ marks n)) ∧
      (separators.length = 2 →
        (e.directory site = d.directory site ↔
          ¬excerptMarker <:+ d.resourcePath site ∧ EndsNameless (d.resourcePath site))) ∧
      (3 ≤ separators.length → e.directory site ≠ d.directory site) := by
  obtain ⟨e, he, hcollection, hpath⟩ := excerpts_eq_ok h d
  have hresource := resourcePath_append site hcollection hpath
  have hplace : ∀ n, separators.length = n + 2 →
      e.directory site = site.source.below (d.resourcePath site ++ marks n) := by
    intro n hn
    rw [hn] at hresource
    rw [directory_marked hresource, marks_succ, ← List.append_assoc, beforeLastSlash_marked]
  refine ⟨e, he, fun hone => ?_, hplace, fun htwo => ?_, fun hmore => ?_⟩
  · rw [hone] at hresource
    rw [directory_marked hresource, directory_eq, below_inj, append_marks_zero]
    by_cases hmarked : excerptMarker <:+ d.resourcePath site
    · obtain ⟨before, hbefore⟩ := hmarked
      rw [← hbefore, beforeLastSlash_marked, withoutMarker_marked, eq_comm, segmentsOf_before_iff]
      exact ⟨fun hnameless _ => hnameless, fun hnameless => hnameless (List.suffix_append before excerptMarker)⟩
    · rw [withoutMarker_eq_self hmarked]
      exact iff_of_true rfl fun hm => absurd hm hmarked
  · rw [hplace 0 htwo, directory_eq, below_inj, append_marks_zero]
    by_cases hmarked : excerptMarker <:+ d.resourcePath site
    · refine iff_of_false (fun heq => ?_) fun hand => hand.1 hmarked
      obtain ⟨before, hbefore⟩ := hmarked
      have hlength := congrArg List.length heq
      have := length_segmentsOf_before before
      rw [← hbefore, withoutMarker_marked, segmentsOf_marked, List.length_append, List.length_singleton] at hlength
      omega
    · rw [withoutMarker_eq_self hmarked, eq_comm, segmentsOf_before_iff]
      exact (and_iff_right hmarked).symm
  · rw [hplace (separators.length - 2) (by omega), directory_eq, Ne, below_inj]
    intro heq
    have hlength := congrArg List.length heq
    rw [length_segmentsOf_marks] at hlength
    have := length_segmentsOf_directory (d.resourcePath site)
    omega

/-- A document that is stored as a mark, and marked only below the directory of collections: its excerpt does
not lie where it does. -/
theorem directory_excerpts_iff_collected :
    let site : Site := ⟨⟨.ofString "/site", [], [], "_posts", "utf-8", "\n\n", []⟩⟩
    let d : Document := ⟨"#excerpt", some "posts", [], ""⟩
    (∀ separator ∈ ["\n\n"], separator ≠ "") ∧
      ∃ e, d.excerpts ["\n\n"] = .ok e ∧ e.directory site ≠ d.directory site := by
  intro site d
  have hseparators : ∀ separator ∈ ["\n\n"], separator ≠ "" := by decide
  obtain ⟨e, he, hone, -⟩ := directory_excerpts_iff site d ["\n\n"] hseparators
  refine ⟨hseparators, e, he, fun heq => ?_⟩
  have hnameless := (hone rfl).1 heq (List.isSuffixOf_iff_suffix.1 (by decide +kernel))
  have hname : withoutMarker (d.resourcePath site) = "_posts".toList := by decide +kernel
  rw [hname, EndsNameless] at hnameless
  revert hnameless
  decide +kernel

/-- The excerpt of an excerpt does not lie where the excerpt does. -/
theorem excerpt_moves :
    ¬∀ (site : Site) (d e : Document) (separator : String), d.relativePath ≠ "" → separator ≠ "" →
      d.excerpt separator = .ok e → e.directory site = d.directory site := by
  intro h
  have hsame := h ⟨⟨.ofString "/site", [], [], "", "utf-8", "\n\n", []⟩⟩ ⟨"posts/a.md/#excerpt", none, [], ""⟩
    _ "\n\n" (by decide) (by decide) rfl
  revert hsame
  decide +kernel

end Document

end Transclusion

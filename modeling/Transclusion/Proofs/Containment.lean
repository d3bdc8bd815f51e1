import Mathlib.Data.List.TakeDrop
import Transclusion.Proofs.Paths
import Transclusion.Proofs.Stages
import Transclusion.Proofs.Templates

/-! Where directives look.

A safe reference does not climb, so the paths that it names lie below the roots
that it is searched under, whatever text a template made it of. The directory of a
document lies below the source of its site unless the document's own path or the
directory of collections climbs. Together: a directive looks up and reads nothing
but paths below the roots of its strategy, for a safe reference only, and one that
searches the directory of its document stays below the source
(`executeWith_contained`). Links are not followed here; paths are compared part by
part. -/
namespace Transclusion

open Transclusion.Path (Climbs IsBelow)

/-! ### References -/

namespace Directive

theorem hasDotSlashPair_of_infix {cs : List Char} (h : ['.', '.'] <:+: cs) : hasDotSlashPair cs = true := by
  obtain ⟨s, t, rfl⟩ := h
  induction s with
  | nil => rfl
  | cons c rest ih =>
    have hrest : rest ++ ['.', '.'] ++ t ≠ [] := by simp
    obtain ⟨d, more, hd⟩ := List.exists_cons_of_ne_nil hrest
    rw [hd] at ih
    rw [List.cons_append, List.cons_append, hd, hasDotSlashPair, ih, Bool.or_true]

/-- A safe reference does not climb. -/
theorem not_climbs_of_safe {reference : List Char} (h : isSafeReference reference = true) :
    ¬Climbs reference := by
  intro hclimbs
  have hpair := hasDotSlashPair_of_infix (Text.infix_of_mem_splitOn hclimbs)
  simp [isSafeReference, hpair] at h

end Directive

/-! ### Documents -/

theorem Text.cutAtLast?_eq {sep : Char} {cs before after : List Char}
    (h : Text.cutAtLast? sep cs = some (before, after)) : cs = before ++ sep :: after := by
  have hsplit := List.takeWhile_append_dropWhile (p := fun c => decide (c ≠ sep)) (l := cs.reverse)
  unfold Text.cutAtLast? at h
  rw [List.span_eq_takeWhile_dropWhile] at h
  split at h
  · simp at h
  · next last c first hspan =>
    simp only [Option.some.injEq, Prod.mk.injEq] at h hspan
    obtain ⟨rfl, rfl⟩ := h
    obtain ⟨rfl, hdrop⟩ := hspan
    have hhead := List.head_dropWhile_not (fun c => decide (c ≠ sep)) (by rw [hdrop]; simp)
    simp only [hdrop, List.head_cons, decide_eq_false_iff_not, not_not] at hhead
    rw [hdrop, hhead] at hsplit
    have := congrArg List.reverse hsplit
    simpa using this.symm

namespace Document

theorem not_climbs_beforeLastSlash {cs : List Char} (h : ¬Climbs cs) : ¬Climbs (beforeLastSlash cs) := by
  unfold beforeLastSlash
  split
  · next before after hcut =>
    rw [Text.cutAtLast?_eq hcut, Path.climbs_append, not_or] at h
    exact h.1
  · exact Path.not_climbs_nil

theorem not_climbs_withoutMarker {cs : List Char} (h : ¬Climbs cs) : ¬Climbs (withoutMarker cs) := by
  unfold withoutMarker
  split
  · next hmarker =>
    obtain ⟨before, rfl⟩ := List.isSuffixOf_iff_suffix.1 hmarker
    rw [List.length_append, Nat.add_sub_cancel, List.take_left]
    exact fun hclimbs => h ((Path.climbs_append before "#excerpt".toList).2 (.inl hclimbs))
  · exact h

/-- The path of a document below the source climbs only if its own path or the directory of collections
does. -/
theorem not_climbs_resourcePath {site : Site} {d : Document} (hpath : ¬Climbs d.relativePath.toList)
    (hcollections : ¬Climbs site.config.collectionsDir.toList) : ¬Climbs (d.resourcePath site) := by
  unfold resourcePath
  split
  · exact hpath
  · simp only
    split
    · exact hpath
    · rw [Path.climbs_append, not_or]
      refine ⟨?_, hpath⟩
      rw [Text.trim, Path.climbs_dropEndWhile, Path.climbs_dropWhile]
      exact hcollections

/-- The directory of a document lies below the source. -/
theorem isBelow_directory {site : Site} {d : Document} (hpath : ¬Climbs d.relativePath.toList)
    (hcollections : ¬Climbs site.config.collectionsDir.toList) : IsBelow site.source (d.directory site) := by
  have hdirectory : d.directory site =
      site.source.below (beforeLastSlash (withoutMarker (d.resourcePath site))) := by
    simp only [directory, Site.inSource, Path.belowAll, List.map_cons, List.map_nil, List.foldl_cons,
      List.foldl_nil, String.toList_ofList]
  rw [hdirectory]
  exact Path.isBelow_below _
    (not_climbs_beforeLastSlash (not_climbs_withoutMarker (not_climbs_resourcePath hpath hcollections)))

end Document

namespace Inclusion
open Directive

/-- A candidate lies below one of the roots. -/
theorem Candidate.isBelow {setting : Setting} {invocation : Invocation} {reference : String} {path : Path}
    (h : Candidate setting invocation reference path) :
    ∃ root ∈ invocation.strategy.roots setting.site setting.document,
      path = joinReference (.ofString root) reference.toList ∧ IsBelow (.ofString root) path := by
  obtain ⟨hsafe, root, hroot, rfl⟩ := h
  exact ⟨root, hroot, rfl, Path.isBelow_below _ (not_climbs_of_safe hsafe)⟩

/-- A candidate in the directory of a document lies below the source. -/
theorem Candidate.isBelow_source {setting : Setting} {invocation : Invocation} {reference : String}
    {path : Path} (h : Candidate setting invocation reference path)
    (hstrategy : invocation.strategy = .documentDirectory)
    (hpath : ∀ d ∈ setting.document, ¬Climbs d.relativePath.toList)
    (hcollections : ¬Climbs setting.site.config.collectionsDir.toList) :
    IsBelow setting.site.source path := by
  obtain ⟨root, hroot, -, hbelow⟩ := h.isBelow
  rw [hstrategy] at hroot
  rw [List.mem_singleton.1 hroot, Path.ofString_toString] at hbelow
  refine IsBelow.trans ?_ hbelow
  cases hdocument : setting.document with
  | none => exact .refl _
  | some d => exact Document.isBelow_directory (hpath d hdocument) hcollections

/-- What a directive itself asks for, looks up and reads. Its strategy is asked for roots only when the
reference that it comes to is safe, and every path that is looked up or read joins that reference to one of
the roots and lies below it. If the strategy is the directory of the document, the path lies below the source
of the site, unless the path of the document or the directory of collections climbs. -/
theorem executeWith_contained {C : Type} {host : Host C} (hquiet : host.Quiet) (setting : Setting)
    (depth : Nat) (invocation : Invocation) (p : Pass C) :
    let inclusion := executeWith host setting (fetch host setting.files) depth
    let evaluated := ((effectiveReference host inclusion invocation).start (p.add (.enter invocation.tag))).1
    let final := ((executeWith host setting (fetch host setting.files) (depth + 1) invocation).start p).2
    ∀ event ∈ Trace.own 0 (Trace.since p.desk.trace final.desk.trace),
      (∀ name, event = .search name →
        ∃ reference, evaluated = .ok reference ∧ isSafeReference reference.toList = true) ∧
      ∀ path, event = .lookup path ∨ event = .read path →
        (∃ reference, evaluated = .ok reference ∧ isSafeReference reference.toList = true ∧
          ∃ root ∈ invocation.strategy.roots setting.site setting.document,
            path = joinReference (.ofString root) reference.toList ∧ IsBelow (.ofString root) path) ∧
        (invocation.strategy = .documentDirectory →
          (∀ d ∈ setting.document, ¬Climbs d.relativePath.toList) →
          ¬Climbs setting.site.config.collectionsDir.toList → IsBelow setting.site.source path) := by
  intro inclusion evaluated final event hevent
  have hown := executeWith_own setting hquiet depth invocation p event hevent
  refine ⟨fun name hname => ?_, fun path hpath => ?_⟩
  · subst hname
    cases hown with
    | search hreference hsafe => exact ⟨_, hreference, hsafe⟩
  · obtain ⟨reference, hreference, hcandidate⟩ :
        ∃ reference, evaluated = .ok reference ∧ Candidate setting invocation reference path := by
      rcases hpath with rfl | rfl
      · cases hown with
        | lookup hreference hcandidate => exact ⟨_, hreference, hcandidate⟩
      · cases hown with
        | read hreference hcandidate => exact ⟨_, hreference, hcandidate⟩
    exact ⟨⟨reference, hreference, hcandidate.1, hcandidate.isBelow⟩, hcandidate.isBelow_source⟩

/-- A template of a document in a collection reads below the source only, whatever its variable holds. -/
theorem executeWith_contained_post :
    let host := Template.host .standard ⟨.empty, none⟩ "utf-8"
    let site : Site := ⟨⟨.ofString "/site", ["_includes"], [], "collections", "utf-8", "\n\n", []⟩⟩
    let post : Document := ⟨"_posts/2024-01-01-a.md", some "posts", [], ""⟩
    let invocation : Invocation :=
      ⟨"include_relative", .of "\x7b\x7b name \x7d\x7d".toList, .documentDirectory⟩
    ∀ files name, let p : Pass Template.Compiled := .fresh .empty [("name", .text name)]
      let final := ((executeWith host ⟨files, site, some post⟩ (fetch host files) 1 invocation).start p).2
      ∀ path, .read path ∈ Trace.own 0 (Trace.since [] final.desk.trace) →
        IsBelow (.ofString "/site") path := by
  intro host site post invocation files name p final path hread
  have hpath : ∀ d ∈ some post, ¬Climbs d.relativePath.toList := by
    simp [Climbs, post, Text.splitOn]
  have hcollections : ¬Climbs site.config.collectionsDir.toList := by simp [Climbs, site, Text.splitOn]
  have quiet : host.Quiet := Template.host_quiet _ _ _
  have hcontained := executeWith_contained quiet ⟨files, site, some post⟩ 0 invocation p _ hread
  exact (hcontained.2 path (.inr rfl)).2 rfl hpath hcollections

end Inclusion

end Transclusion

import Transclusion.Inclusion.Execute
import Transclusion.Proofs.Runs

/-! Searching for a file.

A reference is joined to every root, in order of priority, and the paths are looked
up one after another until a lookup settles the search: its path leads to a file, or
the lookup itself fails. What the search comes to depends on that first path alone
(`found`), and the trace tells which paths were looked up, that one included
(`lookedUp`). -/
namespace Transclusion

/-- Whether looking a path up settles a search: it leads to a file, or it cannot be looked up. -/
def Files.settles (files : Files) (path : Path) : Bool :=
  match files.isFile path with
  | .ok isThere => isThere
  | .error _ => true

namespace Inclusion
open Directive

/-- The desk with further events in its trace. -/
def Desk.addAll (d : Desk) (events : List Event) : Desk := { d with trace := d.trace ++ events }

@[simp] theorem Desk.addAll_nil (d : Desk) : d.addAll [] = d := by simp [addAll]

theorem Desk.addAll_cons (d : Desk) (event : Event) (events : List Event) :
    d.addAll (event :: events) = (d.add event).addAll events := by simp [addAll, add]

/-- Where a reference is looked up: below each of the roots, in their order. -/
def candidates (reference : String) (roots : List String) : List Path :=
  roots.map fun root => joinReference (.ofString root) reference.toList

section
variable (files : Files)

/-- What a search comes to: the first path that settles it, unless that cannot be looked up. -/
def found (paths : List Path) : Except Fault (Option Path) :=
  match paths.find? files.settles with
  | none => .ok none
  | some path => match files.isFile path with
    | .ok _ => .ok (some path)
    | .error fault => .error (.lookup fault path.toString)

/-- The paths that a search looks up, to the one that settles it. -/
def lookedUp (paths : List Path) : List Path :=
  paths.takeWhile (!files.settles ·) ++ (paths.find? files.settles).toList

variable {files}

theorem found_cons_settled {path : Path} (h : files.settles path = true) (rest : List Path) :
    found files (path :: rest) =
      match files.isFile path with
      | .ok _ => .ok (some path)
      | .error fault => .error (.lookup fault path.toString) := by
  unfold found
  rw [List.find?_cons_of_pos h]

theorem found_cons_unsettled {path : Path} (h : files.settles path = false) (rest : List Path) :
    found files (path :: rest) = found files rest := by
  unfold found
  rw [List.find?_cons_of_neg (by simp [h])]

theorem lookedUp_cons_settled {path : Path} (h : files.settles path = true) (rest : List Path) :
    lookedUp files (path :: rest) = [path] := by
  simp [lookedUp, h]

theorem lookedUp_cons_unsettled {path : Path} (h : files.settles path = false) (rest : List Path) :
    lookedUp files (path :: rest) = path :: lookedUp files rest := by
  simp [lookedUp, h]

/-- Where a search ends: the paths before lead to no file. -/
def FirstOf (files : Files) (paths : List Path) (path : Path) : Prop :=
  ∃ before after, paths = before ++ path :: after ∧ ∀ earlier ∈ before, files.isFile earlier = .ok false

theorem settles_eq_false_iff {path : Path} : files.settles path = false ↔ files.isFile path = .ok false := by
  unfold Files.settles
  split
  · next isThere hfile => simp [hfile]
  · next fault hfile => simp [hfile]

theorem firstOf_of_find? {paths : List Path} {path : Path} (h : paths.find? files.settles = some path) :
    FirstOf files paths path := by
  obtain ⟨-, before, after, hsplit, hbefore⟩ := List.find?_eq_some_iff_append.1 h
  exact ⟨before, after, hsplit, fun earlier hmem => settles_eq_false_iff.1 (by simpa using hbefore earlier hmem)⟩

/-- What is found is the first path that leads to a file. -/
theorem found_eq_some {paths : List Path} {path : Path} (h : found files paths = .ok (some path)) :
    FirstOf files paths path ∧ files.isFile path = .ok true := by
  unfold found at h
  split at h
  · simp at h
  · next other hfind =>
    have hsettles : files.settles other = true := List.find?_some hfind
    unfold Files.settles at hsettles
    split at h
    · next isThere hfile =>
      rw [hfile] at hsettles
      obtain rfl : other = path := by simpa using h
      exact ⟨firstOf_of_find? hfind, hsettles ▸ hfile⟩
    · simp at h

/-- A search fails at the first path that cannot be looked up. -/
theorem found_eq_error {paths : List Path} {fault : Fault} (h : found files paths = .error fault) :
    ∃ path why, FirstOf files paths path ∧ files.isFile path = .error why ∧
      fault = .lookup why path.toString := by
  unfold found at h
  split at h
  · simp at h
  · next path hfind =>
    split at h
    · simp at h
    · next why hfile => exact ⟨path, why, firstOf_of_find? hfind, hfile, (Except.error.inj h).symm⟩

/-- Nothing is found exactly if every path can be looked up, and none leads to a file. -/
theorem found_eq_none_iff {paths : List Path} :
    found files paths = .ok none ↔ ∀ path ∈ paths, files.isFile path = .ok false := by
  rw [← forall₂_congr fun path _ => settles_eq_false_iff ]
  unfold found
  split
  · next hfind => simpa using hfind
  · next path hfind =>
    have hpath : files.settles path = true := List.find?_some hfind
    have hsome : ¬∀ path ∈ paths, files.settles path = false := fun hall => by
      rw [hall path (List.mem_of_find?_eq_some hfind)] at hpath
      simp at hpath
    split <;> simpa using hsome

/-- Where the first path that settles a search cannot be looked up, the search fails. -/
theorem found_of_firstOf {paths : List Path} {path : Path} {why : LookupFault}
    (h : FirstOf files paths path) (hfile : files.isFile path = .error why) :
    found files paths = .error (.lookup why path.toString) := by
  obtain ⟨before, after, rfl, hbefore⟩ := h
  have hsettles : files.settles path = true := by simp [Files.settles, hfile]
  induction before with
  | nil =>
    rw [List.nil_append, found_cons_settled hsettles, hfile]
  | cons first rest ih =>
    have hfirst := settles_eq_false_iff.2 (hbefore first (List.mem_cons_self ..))
    rw [List.cons_append, found_cons_unsettled hfirst]
    exact ih fun earlier hmem => hbefore earlier (List.mem_cons_of_mem _ hmem)

end

/-! ### The runs -/

theorem start_searchRoots (files : Files) (reference : String) (roots : List String) (d : Desk) :
    (searchRoots files reference roots).start d =
      (found files (candidates reference roots),
        d.addAll ((lookedUp files (candidates reference roots)).map .lookup)) := by
  induction roots generalizing d with
  | nil => exact Prod.ext rfl d.addAll_nil.symm
  | cons root rest ih =>
    let path := joinReference (.ofString root) reference.toList
    have hpaths : candidates reference (root :: rest) = path :: candidates reference rest := rfl
    rw [hpaths]
    simp only [searchRoots, note, Run.start_bind, Run.start_change, Run.start_ofExcept]
    cases hfile : files.isFile path with
    | error fault =>
      have hsettles : files.settles path = true := by simp [Files.settles, hfile]
      rw [found_cons_settled hsettles, lookedUp_cons_settled hsettles, hfile]
      rfl
    | ok isThere =>
      cases isThere with
      | true =>
        have hsettles : files.settles path = true := by simp [Files.settles, hfile]
        rw [found_cons_settled hsettles, lookedUp_cons_settled hsettles, hfile]
        rfl
      | false =>
        have hsettles : files.settles path = false := by simp [Files.settles, hfile]
        rw [found_cons_unsettled hsettles, lookedUp_cons_unsettled hsettles, List.map_cons, Desk.addAll_cons]
        exact ih (d.add (.lookup path))

end Inclusion

/-- Where a directive has its reference looked up. -/
def Directive.Invocation.candidates (invocation : Directive.Invocation) (setting : Inclusion.Setting)
    (reference : String) : List Path :=
  Inclusion.candidates reference (invocation.strategy.roots setting.site setting.document)

namespace Inclusion
open Directive

/-- What finding a partial adds to the trace once its reference has been checked. -/
def searching (setting : Setting) (invocation : Invocation) (reference : String) : List Event :=
  .search invocation.strategy.name ::
    (lookedUp setting.files (invocation.candidates setting reference)).map .lookup

/-- Finding a partial is checking its reference and searching its roots. -/
theorem start_findPartial (setting : Setting) (invocation : Invocation) (reference : String) (d : Desk) :
    (findPartial setting invocation reference).start d =
      let roots := invocation.strategy.roots setting.site setting.document
      let searched := d.addAll (searching setting invocation reference)
      match checkReference invocation.tag reference with
      | .error fault => (.error fault, d)
      | .ok () => match found setting.files (invocation.candidates setting reference) with
        | .error fault => (.error fault, searched)
        | .ok none => (.error (.notFound reference roots), searched.add (.record (notFoundRecord reference roots)))
        | .ok (some path) => (.ok path, searched) := by
  let roots := invocation.strategy.roots setting.site setting.document
  let searched := d.addAll (searching setting invocation reference)
  have hsearched : (d.add (.search invocation.strategy.name)).addAll
      ((lookedUp setting.files (invocation.candidates setting reference)).map .lookup) = searched :=
    (Desk.addAll_cons ..).symm
  unfold findPartial locate
  rw [Run.start_bind, Run.start_ofExcept]
  cases checkReference invocation.tag reference with
  | error fault => rfl
  | ok _ =>
    simp only [note, record, Run.start_bind, Run.start_change, start_searchRoots]
    rw [show candidates reference roots = invocation.candidates setting reference from rfl, hsearched]
    rcases found setting.files (invocation.candidates setting reference) with fault | _ | path <;> rfl

end Inclusion

end Transclusion

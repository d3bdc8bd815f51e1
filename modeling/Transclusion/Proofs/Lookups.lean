import Transclusion.Proofs.Searching

/-! Where paths lead.

A lookup goes from place to place, name by name, and puts the target of a link before
the names that are left. `Leads` says where that comes to and how many links it takes,
with no bound on them; a lookup arrives exactly where its names lead through no more
links than it may follow (`place_eq_ok_iff`). Which paths lead to files is then a
statement about the tree alone (`LeadsToFile`), and a search in order of priority is
settled by it: the first root below which the reference leads to a file wins, whatever
stands below the roots before and behind it. -/
namespace Transclusion

namespace Files

/-- Where names lead from a place, through a number of links. -/
inductive Leads (files : Files) : (links : Nat) → Place → List Segment → Place → Prop
  | arrive (place : Place) : Leads files 0 place [] place
  | up {links : Nat} {here goal : Place} {rest : List Segment}
      (hdir : files.node? here = some .directory) (hopen : files.barrier? here = none)
      (hrest : Leads files links here.dropLast rest goal) :
      Leads files links here (.parent :: rest) goal
  | down {links : Nat} {here goal : Place} {s : Segment} {rest : List Segment} {node : Node}
      (hdir : files.node? here = some .directory) (hopen : files.barrier? here = none) (hs : s ≠ .parent)
      (hshort : byteCount s.name ≤ nameLimit)
      (hnode : files.node? (here ++ [s.name]) = some node) (hnolink : ∀ target, node ≠ .link target)
      (hrest : Leads files links (here ++ [s.name]) rest goal) :
      Leads files links here (s :: rest) goal
  /-- The names of a link's target come before those that are left. Where none is left, a target that
  asks for a directory has to lead to one. -/
  | through {links : Nat} {here goal : Place} {s : Segment} {rest : List Segment} {target : List Char}
      (hdir : files.node? here = some .directory) (hopen : files.barrier? here = none) (hs : s ≠ .parent)
      (hshort : byteCount s.name ≤ nameLimit)
      (hnode : files.node? (here ++ [s.name]) = some (.link target))
      (hrest : Leads files links (if (Path.of target).isAbsolute then [] else here)
        ((Path.of target).segments ++ rest) goal)
      (hlast : rest = [] → asksForDirectory target = true → files.node? goal = some .directory) :
      Leads files (links + 1) here (s :: rest) goal

section
variable {files : Files}

theorem landing_eq_ok_iff {target : List Char} {place goal : Place} :
    files.landing target place = .ok goal ↔
      place = goal ∧ (asksForDirectory target = true → files.node? place = some .directory) := by
  unfold landing
  split
  · split <;> simp_all
  · simp_all

/-- Going on from a link, where so many links may be followed. -/
def followLink (files : Files) (absent : Place → List Segment → Except LookupFault Place) :
    (links : Nat) → Place → List Char → List Segment → Except LookupFault Place
  | 0, _, _, _ => .error .tooManyLinks
  | links + 1, here, target, rest => do
    let place ← files.follow absent links (if (Path.of target).isAbsolute then [] else here)
      ((Path.of target).segments ++ rest)
    if rest = [] then files.landing target place else pure place

theorem followLink_eq_ok_iff {absent : Place → List Segment → Except LookupFault Place} {links : Nat}
    {here goal : Place} {target : List Char} {rest : List Segment} :
    files.followLink absent links here target rest = .ok goal ↔
      ∃ fewer, links = fewer + 1 ∧
        files.follow absent fewer (if (Path.of target).isAbsolute then [] else here)
          ((Path.of target).segments ++ rest) = .ok goal ∧
        (rest = [] → asksForDirectory target = true → files.node? goal = some .directory) := by
  cases links with
  | zero => simp [followLink]
  | succ fewer =>
    simp only [followLink, Nat.add_right_cancel_iff, exists_eq_left']
    cases files.follow absent fewer (if (Path.of target).isAbsolute then [] else here)
        ((Path.of target).segments ++ rest) with
    | error fault => simp [bind, Except.bind]
    | ok place =>
      simp only [bind, Except.bind, Except.ok.injEq]
      by_cases hrest : rest = []
      · rw [if_pos hrest, landing_eq_ok_iff]
        constructor
        · rintro ⟨rfl, h⟩
          exact ⟨rfl, fun _ => h⟩
        · rintro ⟨rfl, h⟩
          exact ⟨rfl, h hrest⟩
      · simp [hrest, pure, Except.pure]

variable {absent : Place → List Segment → Except LookupFault Place} {links : Nat} {here : Place}

theorem follow_nil : files.follow absent links here [] = .ok here := by
  cases links <;> rfl

/-- One name of a lookup. -/
theorem follow_cons (s : Segment) (rest : List Segment) :
    files.follow absent links here (s :: rest) =
      match files.node? here, files.barrier? here with
      | some .directory, some why => .error (.barred why)
      | some .directory, none =>
        if s = .parent then files.follow absent links here.dropLast rest
        else if nameLimit < byteCount s.name then .error .nameTooLong
        else match files.node? (here ++ [s.name]) with
          | none => absent (here ++ [s.name]) rest
          | some (.link target) => files.followLink absent links here target rest
          | some _ => files.follow absent links (here ++ [s.name]) rest
      | _, _ => .error .notDirectory := by
  cases links <;> rfl

/-- What names lead to is where a lookup that may follow as many links arrives. -/
theorem Leads.follow {used : Nat} {goal : Place} {segments : List Segment}
    (h : files.Leads used here segments goal) (hused : used ≤ links) :
    files.follow absent links here segments = .ok goal := by
  induction h generalizing links with
  | arrive place => exact follow_nil
  | up hdir hopen hrest ih => rw [follow_cons, hdir, hopen]; simp [ih hused]
  | @down _ _ _ s _ node hdir hopen hs hshort hnode hnolink hrest ih =>
    rw [follow_cons, hdir, hopen]
    simp only [if_neg hs, if_neg (Nat.not_lt.2 hshort), hnode]
    cases node with
    | link target => exact absurd rfl (hnolink target)
    | file bytes => exact ih hused
    | directory => exact ih hused
  | through hdir hopen hs hshort hnode hrest hlast ih =>
    rw [follow_cons, hdir, hopen]
    simp only [if_neg hs, if_neg (Nat.not_lt.2 hshort), hnode]
    obtain ⟨fewer, rfl⟩ := Nat.exists_eq_add_of_le' (Nat.lt_of_lt_of_le (Nat.succ_pos _) hused)
    exact followLink_eq_ok_iff.2 ⟨fewer, rfl, ih (Nat.le_of_succ_le_succ hused), hlast⟩

/-- Where a lookup arrives is what its names lead to, by as many links as it followed: by induction on
the links that are left, and for each number of them on the names. -/
theorem leads_of_follow (habsent : ∀ place rest goal, absent place rest ≠ .ok goal) {goal : Place}
    {segments : List Segment} (h : files.follow absent links here segments = .ok goal) :
    ∃ used ≤ links, files.Leads used here segments goal := by
  induction links using Nat.strongRecOn generalizing here segments with
  | _ links ihlinks =>
    induction segments generalizing here with
    | nil =>
      obtain rfl : here = goal := by simpa [follow_nil] using h
      exact ⟨0, Nat.zero_le _, .arrive here⟩
    | cons s rest ih =>
      rw [follow_cons] at h
      split at h
      · cases h
      · next hdir hopen =>
        split at h
        · next hs =>
          subst hs
          obtain ⟨used, hused, hleads⟩ := ih h
          exact ⟨used, hused, .up hdir hopen hleads⟩
        · next hs =>
          split at h
          · simp at h
          · next hshort =>
            have hshort := Nat.le_of_not_lt hshort
            split at h
            · exact absurd h (habsent _ _ _)
            · next target hnode =>
              obtain ⟨fewer, rfl, hfollow, hlast⟩ := followLink_eq_ok_iff.1 h
              obtain ⟨used, hused, hleads⟩ := ihlinks fewer (Nat.lt_succ_self _) hfollow
              exact ⟨used + 1, Nat.succ_le_succ hused, .through hdir hopen hs hshort hnode hleads hlast⟩
            · next node hnolink hnode =>
              obtain ⟨used, hused, hleads⟩ := ih h
              exact ⟨used, hused, .down hdir hopen hs hshort hnode hnolink hleads⟩
      · simp at h

/-- A path leads to a place: it is short enough to be looked up, and its names lead there through no
more links than a lookup follows. -/
def LeadsTo (files : Files) (path : Path) (place : Place) : Prop :=
  byteCount path.text ≤ pathLimit ∧
    ∃ links ≤ linkLimit, files.Leads links (files.start path.anchor) path.segments place

/-- A lookup arrives exactly where its path leads. -/
theorem place_eq_ok_iff {path : Path} {place : Place} : files.place path = .ok place ↔ files.LeadsTo path place := by
  unfold Files.place placeOr LeadsTo
  by_cases hlong : pathLimit < byteCount path.text
  · simp [hlong, Nat.not_le.2 hlong]
  · rw [if_neg hlong]
    refine ⟨fun h => ⟨Nat.le_of_not_lt hlong, leads_of_follow (by simp) h⟩, ?_⟩
    rintro ⟨-, links, hlinks, hleads⟩
    exact hleads.follow hlinks

/-- A path leads to one place at most. -/
theorem LeadsTo.unique {path : Path} {place other : Place} (h : files.LeadsTo path place)
    (h' : files.LeadsTo path other) : place = other :=
  Except.ok.inj ((place_eq_ok_iff.2 h).symm.trans (place_eq_ok_iff.2 h'))

/-- A path leads to a file. No file has a name with a NUL in it. -/
def LeadsToFile (files : Files) (path : Path) : Prop :=
  '\x00' ∉ path.text ∧ ∃ place bytes, files.LeadsTo path place ∧ files.node? place = some (.file bytes)

theorem isFile_eq_true_iff {path : Path} : files.isFile path = .ok true ↔ files.LeadsToFile path := by
  unfold isFile LeadsToFile
  by_cases hnul : '\x00' ∈ path.text
  · simp [hnul]
  · simp only [List.contains_eq_mem, hnul, decide_false, Bool.false_eq_true, if_false, not_false_eq_true,
      true_and]
    constructor
    · intro h
      split at h
      · next place hplace =>
        split at h
        · next bytes hnode => exact ⟨place, bytes, place_eq_ok_iff.1 hplace, hnode⟩
        · simp at h
      · split at h <;> simp at h
    · rintro ⟨place, bytes, hleads, hnode⟩
      rw [place_eq_ok_iff.2 hleads]
      simp [hnode]

instance (files : Files) (path : Path) : Decidable (files.LeadsToFile path) :=
  decidable_of_iff ((files.isFile path).toOption = some true) <| by
    rw [← isFile_eq_true_iff]
    cases files.isFile path <;> simp [Except.toOption]

/-- What a search passes over: a path that leads to a directory, to nothing, in circles, or through
something that is no directory. -/
def Misleads (files : Files) (path : Path) : Prop :=
  (∃ place, files.LeadsTo path place ∧ files.node? place = some .directory) ∨
    ∃ fault ∈ [LookupFault.missing, .tooManyLinks, .notDirectory], files.place path = .error fault

theorem Misleads.isFile {path : Path} (h : files.Misleads path) : files.isFile path = .ok false := by
  unfold Files.isFile
  split
  · rfl
  · obtain ⟨place, hleads, hnode⟩ | ⟨fault, hfault, hplace⟩ := h
    · rw [place_eq_ok_iff.2 hleads]
      simp [hnode]
    · rw [hplace]
      simp only [List.mem_cons, List.not_mem_nil, or_false] at hfault
      obtain rfl | rfl | rfl := hfault <;> rfl

end

end Files

/-! ### The first root -/

namespace Inclusion
open Directive

/-- Where a reference is looked up below a root. -/
def candidate (reference root : String) : Path := joinReference (.ofString root) reference.toList

theorem candidates_eq_map (reference : String) (roots : List String) :
    candidates reference roots = roots.map (candidate reference) := rfl

/-- A root has the file that a reference names. -/
def Holds (files : Files) (reference root : String) : Prop := files.LeadsToFile (candidate reference root)

instance (files : Files) (reference root : String) : Decidable (Holds files reference root) :=
  inferInstanceAs (Decidable (files.LeadsToFile (candidate reference root)))

section
variable {files : Files}

theorem settles_eq_decide {path : Path} (h : (files.isFile path).isOk = true) :
    files.settles path = decide (files.LeadsToFile path) := by
  unfold Files.settles
  rw [Bool.eq_iff_iff, decide_eq_true_iff, ← Files.isFile_eq_true_iff]
  obtain ⟨isThere, hfile⟩ := Result.exists_of_isOk h
  simp [hfile]

/-- Where every path can be looked up, a search comes to the first that leads to a file. -/
theorem found_eq_find? {paths : List Path} (h : ∀ path ∈ paths, (files.isFile path).isOk = true) :
    found files paths = .ok (paths.find? (files.LeadsToFile ·)) := by
  have hfind : paths.find? files.settles = paths.find? (files.LeadsToFile ·) := by
    rw [← List.head?_filter, ← List.head?_filter,
      List.filter_congr fun path hmem => settles_eq_decide (h path hmem)]
  unfold found
  rw [hfind]
  cases hfirst : paths.find? (files.LeadsToFile ·) with
  | none => rfl
  | some path =>
    have hleads : files.LeadsToFile path := by simpa using List.find?_some hfirst
    simp [Files.isFile_eq_true_iff.2 hleads]

/-- Further paths do not change what has been found. -/
theorem found_append {paths : List Path} {path : Path} (h : found files paths = .ok (some path))
    (more : List Path) : found files (paths ++ more) = .ok (some path) := by
  unfold found at h ⊢
  rw [List.find?_append]
  cases hfind : paths.find? files.settles with
  | none => simp [hfind] at h
  | some other => simpa [hfind] using h

/-- A path that can be looked up and leads to no file might as well not be there. -/
theorem found_insert {path : Path} (h : files.isFile path = .ok false) (before after : List Path) :
    found files (before ++ path :: after) = found files (before ++ after) := by
  have hfind : (before ++ path :: after).find? files.settles = (before ++ after).find? files.settles := by
    rw [List.find?_append, List.find?_append, List.find?_cons_of_neg (by simp [settles_eq_false_iff.2 h])]
  unfold found
  rw [hfind]

variable {reference : String} {roots : List String} {d : Desk}

/-- A reference comes to what the search finds, or else is not found. -/
theorem start_locate :
    ((locate files reference roots).start d).1 =
      match found files (candidates reference roots) with
      | .error fault => .error fault
      | .ok none => .error (.notFound reference roots)
      | .ok (some path) => .ok path := by
  unfold locate
  rw [Run.start_bind, start_searchRoots]
  rcases found files (candidates reference roots) with fault | _ | path <;> rfl

theorem start_locate_eq_ok_iff {path : Path} :
    ((locate files reference roots).start d).1 = .ok path ↔
      found files (candidates reference roots) = .ok (some path) := by
  rw [start_locate]
  rcases found files (candidates reference roots) with fault | _ | other <;> simp

/-- Where the reference can be looked up below every root, the first root that has the file decides. -/
theorem found_candidates (h : ∀ root ∈ roots, (files.isFile (candidate reference root)).isOk = true) :
    found files (candidates reference roots) =
      .ok ((roots.find? (Holds files reference ·)).map (candidate reference)) := by
  rw [candidates_eq_map, found_eq_find? (by simpa using h), List.find?_map]
  rfl

end

/-- Where a reference can be looked up below each of the roots, it comes to its path below the first
root that has the file, and is reported, with all the roots in their order, exactly when none has it.
So roots behind do not change what is found, and neither do roots without the file, wherever they stand;
a directory, a link to nothing or in circles, and a file on the way are passed over. -/
theorem locate_first {files : Files} {reference : String} {roots : List String}
    (h : ∀ root ∈ roots, (files.isFile (candidate reference root)).isOk = true) (d : Desk) :
    (∀ path, ((locate files reference roots).start d).1 = .ok path ↔
      ∃ (i : Nat) (root : String), roots[i]? = some root ∧ path = candidate reference root ∧
        Holds files reference root ∧
        ∀ j < i, ∀ earlier, roots[j]? = some earlier → ¬Holds files reference earlier) ∧
    (∀ fault, ((locate files reference roots).start d).1 = .error fault ↔
      fault = .notFound reference roots ∧ ∀ root ∈ roots, ¬Holds files reference root) ∧
    (∀ path more, ((locate files reference roots).start d).1 = .ok path →
      ((locate files reference (roots ++ more)).start d).1 = .ok path) ∧
    (∀ others, (∀ root ∈ others, (files.isFile (candidate reference root)).isOk = true) →
      others.filter (Holds files reference ·) = roots.filter (Holds files reference ·) →
      ∀ path, ((locate files reference others).start d).1 = .ok path ↔
        ((locate files reference roots).start d).1 = .ok path) ∧
    (∀ before root after, roots = before ++ root :: after → files.Misleads (candidate reference root) →
      ∀ path, ((locate files reference roots).start d).1 = .ok path ↔
        ((locate files reference (before ++ after)).start d).1 = .ok path) := by
  refine ⟨fun path => ?_, fun fault => ?_, fun path more hpath => ?_, fun others hothers hsame path => ?_, ?_⟩
  · rw [start_locate_eq_ok_iff, found_candidates h]
    simp only [Except.ok.injEq, Option.map_eq_some_iff, List.find?_eq_some_iff_getElem, decide_eq_true_eq]
    constructor
    · rintro ⟨root, ⟨hroot, i, hi, rfl, hbefore⟩, rfl⟩
      refine ⟨i, _, List.getElem?_eq_getElem hi, rfl, hroot, fun j hj earlier hearlier => ?_⟩
      obtain ⟨_, rfl⟩ := List.getElem?_eq_some_iff.1 hearlier
      simpa using hbefore j hj
    · rintro ⟨i, root, hi, rfl, hroot, hbefore⟩
      obtain ⟨hlt, rfl⟩ := List.getElem?_eq_some_iff.1 hi
      exact ⟨_, ⟨hroot, i, hlt, rfl, fun j hj => by simpa using hbefore j hj _ (List.getElem?_eq_getElem _)⟩, rfl⟩
  · rw [start_locate, found_candidates h]
    cases hfind : roots.find? (Holds files reference ·) with
    | none =>
      have hnone : ∀ root ∈ roots, ¬Holds files reference root := by simpa using hfind
      exact ⟨fun hfault => ⟨(Except.error.inj hfault).symm, hnone⟩,
        fun hfault => congrArg Except.error hfault.1.symm⟩
    | some root =>
      have hroot : Holds files reference root := by simpa using List.find?_some hfind
      simpa using fun _ => ⟨root, List.mem_of_find?_eq_some hfind, hroot⟩
  · rw [start_locate_eq_ok_iff] at hpath ⊢
    rw [candidates_eq_map, List.map_append]
    exact found_append hpath _
  · rw [start_locate_eq_ok_iff, start_locate_eq_ok_iff, found_candidates h, found_candidates hothers,
      ← List.head?_filter, ← List.head?_filter, hsame]
  · rintro before root after rfl hroot path
    rw [start_locate_eq_ok_iff, start_locate_eq_ok_iff]
    simp only [candidates_eq_map, List.map_append, List.map_cons]
    rw [found_insert hroot.isFile]

/-- A tree with a directory, a link to nothing, a link to itself and a file in the way of a reference,
and a file that it leads to by two links, one of them on the way. -/
def crowded : Files :=
  .ofNodes [(["a".toList], .directory), (["a".toList, "nav".toList], .directory),
    (["b".toList], .directory), (["b".toList, "nav".toList], .link "/nowhere".toList),
    (["c".toList], .directory), (["c".toList, "nav".toList], .link "nav".toList),
    (["d".toList], .file []),
    (["e".toList], .link "f".toList),
    (["f".toList], .directory), (["f".toList, "nav".toList], .link "../g/nav".toList),
    (["g".toList], .directory), (["g".toList, "nav".toList], .file [])]

/-- The obstacles are passed over, and what the reference comes to is the path through the links. -/
theorem locate_first_crowded :
    (∀ root ∈ ["/a", "/b", "/c", "/d", "/e", "/g"], (crowded.isFile (candidate "nav" root)).isOk = true) ∧
      ((locate crowded "nav" ["/a", "/b", "/c", "/d", "/e", "/g"]).start .empty).1 = .ok (.ofString "/e/nav") :=
  have h : ∀ root ∈ ["/a", "/b", "/c", "/d", "/e", "/g"],
      (crowded.isFile (candidate "nav" root)).isOk = true := by decide +kernel
  ⟨h, ((locate_first h .empty).1 _).2
    ⟨4, "/e", rfl, by decide +kernel, by decide +kernel, by decide +kernel⟩⟩

end Inclusion

end Transclusion

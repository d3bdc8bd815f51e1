import Transclusion.Proofs.Directories
import Transclusion.Proofs.FrontMatters
import Transclusion.Proofs.Lookups

/-! The roots of a stored configuration.

What a configuration says is meant from the directory that its file lies in, and a lookup
tells that directory from its spelling: where all names but the last lead (`Leads.split`) is
reached from the root by names of directories alone (`Leads.isReal`). So two spellings of
one directory give one configuration. Checking changes no path that was prepared, because a
printed path is read back as itself; hence the roots are, one by one, what the file says,
joined below the source or seen from the directory (`load_roots`). -/
namespace Transclusion

/-- Without the entries under it, a key has no value. -/
theorem Value.lookupKey_filter_eq_none {keeps : Value × Value → Bool} {field : String}
    (h : ∀ key v, key.text? = some field → keeps (key, v) = false) (entries : List (Value × Value)) :
    lookupKey (.text field) (entries.filter keeps) = none := by
  induction entries with
  | nil => rfl
  | cons entry rest ih =>
    obtain ⟨key, v⟩ := entry
    cases hkeeps : keeps (key, v) with
    | false => rw [List.filter_cons_of_neg (by simp [hkeeps]), ih]
    | true =>
      have hne : key.text? ≠ some field := fun hkey => by simp [h key v hkey] at hkeeps
      rw [List.filter_cons_of_pos hkeeps, lookupKey_cons, if_neg hne, ih]

namespace Files

variable {files : Files} {links : Nat} {here goal dir : Place} {path : Path}

/-! ### Directories free of links -/

/-- Directories that are reached without a link, through directories alone. -/
abbrev IsReal (files : Files) (dir : Place) : Prop := files.nodes.IsReal dir

theorem node?_of_isReal (h : files.IsReal dir) : files.node? dir = some .directory := by
  unfold node?
  cases h with
  | root => rfl
  | child _ _ _ hnode => rw [hnode, ite_self]

theorem isReal_concat {s : Segment} (hdir : files.IsReal dir) (hs : s ≠ .parent)
    (hshort : byteCount s.name ≤ nameLimit) (hnode : files.node? (dir ++ [s.name]) = some .directory) :
    files.IsReal (dir ++ [s.name]) := by
  rw [node?, if_neg (by simp)] at hnode
  exact .child hdir hs hshort hnode

theorem isReal_dropLast (h : files.IsReal dir) : files.IsReal dir.dropLast := by
  cases h with
  | root => exact .root
  | child hdir => rwa [List.dropLast_concat]

/-- The path of such a directory has its names. -/
theorem parts_pathOf (h : files.IsReal dir) : (pathOf dir).parts = ['/'] :: dir := by
  show ['/'] :: (dir.filterMap Segment.of?).map Segment.name = _
  congr 1
  induction h with
  | root => rfl
  | @child dir s _ _ _ _ ih =>
    rw [List.filterMap_append, List.map_append, ih]
    simp

/-- Names lead to a directory by way of directories, and a link on the way only to another way there. -/
theorem Leads.isReal {segments : List Segment} (h : files.Leads links here segments goal)
    (hhere : files.node? here = some .directory → files.IsReal here) (hgoal : files.node? goal = some .directory) :
    files.IsReal goal := by
  induction h with
  | arrive => exact hhere hgoal
  | up hdir _ _ ih => exact ih (fun _ => isReal_dropLast (hhere hdir)) hgoal
  | down hdir _ hs hshort _ _ _ ih => exact ih (fun hnode => isReal_concat (hhere hdir) hs hshort hnode) hgoal
  | @through _ _ _ _ _ target hdir _ _ _ _ _ _ ih =>
    refine ih (fun _ => ?_) hgoal
    by_cases habsolute : (Path.of target).isAbsolute = true
    · rw [if_pos habsolute]
      exact .root
    · rw [if_neg habsolute]
      exact hhere hdir

/-! ### The directory of a file -/

/-- Where names lead on, those before them lead to a directory. -/
theorem Leads.split {before after : List Segment} (h : files.Leads links here (before ++ after) goal)
    (hafter : after ≠ []) :
    ∃ used ≤ links, ∃ left mid, files.Leads used here before mid ∧ files.node? mid = some .directory ∧
      files.Leads left mid after goal := by
  generalize hsegments : before ++ after = segments at h
  induction h generalizing before with
  | arrive => exact absurd (List.append_eq_nil_iff.1 hsegments).2 hafter
  | up hdir hopen hrest ih =>
    cases before with
    | nil =>
      obtain rfl : after = _ := hsegments
      exact ⟨0, Nat.zero_le _, _, _, .arrive _, hdir, .up hdir hopen hrest⟩
    | cons s before =>
      obtain ⟨rfl, hrest'⟩ := List.cons.inj hsegments
      obtain ⟨used, hused, left, mid, hmid, hnode, hlast⟩ := ih hrest'
      exact ⟨used, hused, left, mid, .up hdir hopen hmid, hnode, hlast⟩
  | down hdir hopen hs hshort hnode hnolink hrest ih =>
    cases before with
    | nil =>
      obtain rfl : after = _ := hsegments
      exact ⟨0, Nat.zero_le _, _, _, .arrive _, hdir, .down hdir hopen hs hshort hnode hnolink hrest⟩
    | cons t before =>
      obtain ⟨rfl, hrest'⟩ := List.cons.inj hsegments
      obtain ⟨used, hused, left, mid, hmid, hdir', hlast⟩ := ih hrest'
      exact ⟨used, hused, left, mid, .down hdir hopen hs hshort hnode hnolink hmid, hdir', hlast⟩
  | @through _ _ _ _ rest target hdir hopen hs hshort hnode hrest hlast ih =>
    cases before with
    | nil =>
      obtain rfl : after = _ := hsegments
      exact ⟨0, Nat.zero_le _, _, _, .arrive _, hdir, .through hdir hopen hs hshort hnode hrest hlast⟩
    | cons t before =>
      obtain ⟨rfl, rfl⟩ := List.cons.inj hsegments
      obtain ⟨used, hused, left, mid, hmid, hdir', hafter'⟩ :=
        @ih ((Path.of target).segments ++ before) (List.append_assoc ..)
      -- a target that asks for a directory has one, since there are names behind it
      exact ⟨used + 1, Nat.succ_le_succ hused, left, mid,
        .through hdir hopen hs hshort hnode hmid fun _ _ => hdir', hdir', hafter'⟩

theorem Leads.unique {segments : List Segment} {more : Nat} {other : Place}
    (h : files.Leads links here segments goal) (h' : files.Leads more here segments other) : goal = other := by
  have hfollow : files.follow (fun _ _ => .error .missing) (max links more) here segments = .ok goal :=
    h.follow (Nat.le_max_left ..)
  have hfollow' : files.follow (fun _ _ => .error .missing) (max links more) here segments = .ok other :=
    h'.follow (Nat.le_max_right ..)
  exact Except.ok.inj (hfollow.symm.trans hfollow')

theorem byteCount_cons (c : Char) (cs : List Char) : byteCount (c :: cs) = c.utf8Size + byteCount cs := by
  have hstart (n : Nat) : cs.foldl (fun n c => n + c.utf8Size) n = n + byteCount cs := by
    unfold byteCount
    induction cs generalizing n with
    | nil => rfl
    | cons d rest ih =>
      rw [List.foldl_cons, List.foldl_cons, ih, ih (0 + _)]
      omega
  rw [byteCount, List.foldl_cons, hstart]
  omega

theorem byteCount_append (a b : List Char) : byteCount (a ++ b) = byteCount a + byteCount b := by
  induction a with
  | nil => simp [byteCount]
  | cons c rest ih =>
    rw [List.cons_append, byteCount_cons, byteCount_cons, ih]
    omega

theorem byteCount_pos {cs : List Char} (h : cs ≠ []) : 1 ≤ byteCount cs := by
  obtain ⟨c, rest, rfl⟩ := List.exists_cons_of_ne_nil h
  have hsize := Char.utf8Size_pos c
  rw [byteCount_cons]
  omega

theorem byteCount_joinWith_concat (names : List (List Char)) (name : List Char) :
    byteCount (Text.joinWith '/' names) ≤ byteCount (Text.joinWith '/' (names ++ [name])) := by
  induction names with
  | nil => exact Nat.zero_le _
  | cons first rest ih =>
    cases rest with
    | nil =>
      show byteCount first ≤ byteCount (first ++ '/' :: name)
      rw [byteCount_append]
      omega
    | cons next rest =>
      show byteCount (first ++ '/' :: Text.joinWith '/' (next :: rest)) ≤
        byteCount (first ++ '/' :: Text.joinWith '/' (next :: rest ++ [name]))
      rw [byteCount_append, byteCount_append, byteCount_cons, byteCount_cons]
      omega

/-- The directory of a path is no longer than the path. -/
theorem byteCount_parent_le {init : List Segment} {last : Segment} (h : path.segments = init ++ [last]) :
    byteCount path.parent.text ≤ byteCount path.text := by
  obtain ⟨anchor, segments⟩ := path
  obtain rfl : segments = init ++ [last] := h
  have hparent : Path.parent ⟨anchor, init ++ [last]⟩ = ⟨anchor, init⟩ := by simp [Path.parent]
  have htext : Path.text ⟨anchor, init ++ [last]⟩ =
      anchor.text ++ Text.joinWith '/' (init.map Segment.name ++ [last.name]) := by
    cases anchor <;> cases init <;> simp [Path.text, Path.names]
  have hname : last.name ≠ [] := by
    have hproper := last.proper
    simp only [isSegment, decide_eq_true_eq] at hproper
    exact hproper.1
  rw [hparent, htext, byteCount_append]
  cases init with
  | nil =>
    have hpos : 1 ≤ byteCount (Text.joinWith '/' ([] ++ [last.name])) := byteCount_pos hname
    cases anchor with
    | here => exact Nat.le_trans hpos (Nat.le_add_left ..)
    | root => exact Nat.le_add_right 1 _
    | doubleRoot => exact Nat.le_add_right 2 _
  | cons first rest =>
    have htext' : Path.text ⟨anchor, first :: rest⟩ =
        anchor.text ++ Text.joinWith '/' ((first :: rest).map Segment.name) := by
      cases anchor <;> simp [Path.text, Path.names]
    rw [htext', byteCount_append]
    exact Nat.add_le_add_left (byteCount_joinWith_concat ..) _

theorem isReal_start (anchor : Anchor) : files.IsReal (files.start anchor) := by
  unfold start
  split
  · exact files.isReal
  · exact .root

/-- A file lies in a directory free of links, to which the names before its last lead. -/
theorem LeadsToFile.exists_directory (h : files.LeadsToFile path) :
    ∃ dir name, files.LeadsTo path.parent dir ∧ files.IsReal dir ∧
      path.segments = path.parent.segments ++ [name] ∧
      ∃ left place, files.LeadsTo path place ∧ files.Leads left dir [name] place := by
  obtain ⟨-, place, bytes, hplace, hfile⟩ := h
  obtain ⟨hshort, links, hlinks, hleads⟩ := id hplace
  have hsegments : path.segments ≠ [] := by
    intro hnil
    rw [hnil] at hleads
    cases hleads
    simp [node?_of_isReal (isReal_start path.anchor)] at hfile
  obtain ⟨init, name, hconcat⟩ : ∃ init name, path.segments = init ++ [name] :=
    ⟨_, _, (List.dropLast_append_getLast hsegments).symm⟩
  have hinit : path.parent.segments = init := by simp [Path.parent, hconcat]
  rw [hconcat] at hleads
  obtain ⟨used, hused, left, dir, hdir, hnode, hlast⟩ := hleads.split (List.cons_ne_nil name [])
  refine ⟨dir, name, ⟨Nat.le_trans (byteCount_parent_le hconcat) hshort, used, Nat.le_trans hused hlinks, ?_⟩,
    hdir.isReal (fun _ => isReal_start _) hnode, by rw [hinit, hconcat], left, place, hplace, hlast⟩
  rw [hinit]
  exact hdir

/-- Spellings of one directory lead to the same file, if they lead to a file at all. -/
theorem LeadsToFile.eq_of_directory {other : Path} (h : files.LeadsToFile path) (h' : files.LeadsToFile other)
    (hname : other.segments.getLast? = path.segments.getLast?) (hdir : files.LeadsTo path.parent dir)
    (hdir' : files.LeadsTo other.parent dir) : files.place other = files.place path := by
  obtain ⟨mid, name, hmid, -, hsegments, left, place, hplace, hlast⟩ := h.exists_directory
  obtain ⟨mid', name', hmid', -, hsegments', left', place', hplace', hlast'⟩ := h'.exists_directory
  obtain rfl := hmid.unique hdir
  obtain rfl := hmid'.unique hdir'
  rw [hsegments, hsegments', List.getLast?_concat, List.getLast?_concat] at hname
  obtain rfl := Option.some.inj hname
  rw [place_eq_ok_iff.2 hplace, place_eq_ok_iff.2 hplace', hlast.unique hlast']

/-- What can be read at a place can be read by any path that leads to it. -/
theorem LeadsToFile.read {other : Path} {bytes : List UInt8} (h : files.LeadsToFile other)
    (hplace : files.place other = files.place path) (hread : files.read path = .ok bytes) :
    files.read other = .ok bytes := by
  obtain ⟨hnul, place, content, hleads, hfile⟩ := h
  have hother := place_eq_ok_iff.2 hleads
  unfold Files.read at hread ⊢
  rw [← hplace, hother] at hread
  rw [hother, if_neg (by simpa using hnul)]
  split at hread
  · cases hread
  · dsimp only at hread ⊢
    rw [hfile] at hread ⊢
    split at hread
    · cases hread
    · next hopen => simp_all
    · next hdirectory => cases hdirectory
    · cases hread

end Files

namespace SiteConfig

variable {entries : List (Value × Value)} {field : String} {files : Files} {path base : Path}
  {config : SiteConfig} {extra : List String}

/-! ### Checked fields -/

section
variable {α : Type}

theorem collect_eq_ok_iff {cs : List (Checked α)} {as : List α} : collect cs = .ok as ↔ cs = as.map .ok := by
  induction cs generalizing as with
  | nil => cases as <;> simp [collect]
  | cons c rest ih =>
    cases as with
    | nil =>
      cases c <;> cases hrest : collect rest <;> simp [collect, hrest]
    | cons a as =>
      rw [List.map_cons, List.cons.injEq, ← ih]
      cases c <;> cases hrest : collect rest <;> simp [collect, hrest]

/-- A list that passes its check consists of what its items were read from. -/
theorem eq_of_checkList {item : List LocationStep → Value → Checked α} {embed : α → Value}
    (hitem : ∀ location v a, item location v = .ok a → v = embed a) {v : Value} {as : List α}
    (h : checkList field item v = .ok as) : v = .list (as.map embed) := by
  cases v with
  | list items =>
    have hitems := collect_eq_ok_iff.1 h
    have hlength : items.length = as.length := by simpa using congrArg List.length hitems
    refine congrArg Value.list (List.ext_getElem (by simpa using hlength) fun i hi hi' => ?_)
    have has : i < as.length := hlength ▸ hi
    have hat : (items.mapIdx fun i v => item [.field field, .index i] v)[i]? = (as.map Except.ok)[i]? := by
      rw [hitems]
    rw [List.getElem_map]
    refine hitem [.field field, .index i] items[i] as[i] ?_
    simpa [hi, has] using hat
  | _ => cases h

theorem checkList_paths (field : String) (texts : List String) :
    checkList field checkPath (.list (texts.map .text)) = .ok (texts.map .ofString) := by
  refine collect_eq_ok_iff.2 (List.ext_getElem (by simp) fun i hi hi' => ?_)
  simp [checkPath]

theorem eq_of_checkText {location : List LocationStep} {v : Value} {s : String}
    (h : checkText location v = .ok s) : v = .text s := by
  cases v with
  | text t => exact congrArg Value.text (Except.ok.inj h)
  | _ => cases h

end

theorem fields_of_ofEntries (h : ofEntries entries = .ok config) :
    fieldOr entries "source" (complain [.field "source"] .present) (checkPath [.field "source"]) =
        .ok config.source ∧
      (fieldOr entries "includes_dirs" (.ok defaultIncludesDirs) fun v =>
        checkList "includes_dirs" checkText (listOfOne v)) = .ok config.includesDirs ∧
      (fieldOr entries "extra_include_paths" (.ok []) fun v => checkList "extra_include_paths" checkPath v) =
        .ok config.extraIncludePaths := by
  simp only [ofEntries] at h
  split at h
  · next hsource hincludes hextra _ _ _ _ =>
    cases h
    exact ⟨hsource, hincludes, hextra⟩
  · cases h

/-! ### What a configuration says -/

/-- The entries that a file holds. -/
def Stores (files : Files) (path : Path) (entries : List (Value × Value)) : Prop :=
  ∃ bytes text, files.read path = .ok bytes ∧ decodeLines storedEncoding bytes = .ok text ∧
    FrontMatter.Gives text entries

/-- What stands for the directories below the source: a list of texts, a single text, or nothing, for which
there is a default. -/
def SaysIncludes (entries : List (Value × Value)) (dirs : List String) : Prop :=
  match Value.lookupKey (.text "includes_dirs") entries with
  | none | some .null => dirs = defaultIncludesDirs
  | some (.text s) => dirs = [s]
  | some v => v = .list (dirs.map .text)

/-- The further directories are a list of texts, or nothing. -/
def SaysExtra (entries : List (Value × Value)) (extra : List String) : Prop :=
  match Value.lookupKey (.text "extra_include_paths") entries with
  | none | some .null => extra = []
  | some v => v = .list (extra.map .text)

theorem given_extra (h : SaysExtra entries extra) :
    given entries "extra_include_paths" (.list []) = .list (extra.map .text) := by
  unfold SaysExtra at h
  unfold given
  split at h
  · next hnone => rw [hnone, h]; rfl
  · next hnull => rw [hnull, h]; rfl
  · next v hv =>
    rw [hv, h]
    cases extra <;> rfl

theorem mapM_seenFrom_texts (base : Path) (texts : List String) :
    (texts.map Value.text).mapM (seenFrom base) =
      .ok (texts.map fun s => .text (base.append (.ofString s)).toString) := by
  induction texts with
  | nil => rfl
  | cons s rest ih => rw [List.map_cons, List.mapM_cons, seenFrom_text, ih]; rfl

theorem lookupKey_withoutNull_self (field : String) (entries : List (Value × Value)) :
    Value.lookupKey (.text field) (withoutNull field entries) =
      match Value.lookupKey (.text field) entries with
      | some .null => none
      | found => found := by
  unfold withoutNull
  cases hfound : Value.lookupKey (.text field) entries with
  | none => exact hfound
  | some v =>
    cases v with
    | null =>
      refine Value.lookupKey_filter_eq_none (fun key v hkey => ?_) entries
      simp [Value.sameScalar_text, hkey]
    | _ => exact hfound

theorem lookupKey_includes (source : Value) (extra : List Value) (entries : List (Value × Value)) :
    Value.lookupKey (.text "includes_dirs") (prepared source extra entries) =
      match Value.lookupKey (.text "includes_dirs") entries with
      | some .null => none
      | found => found := by
  rw [prepared, lookupKey_withoutNull (by decide), lookupKey_withoutNull_self,
    Value.lookupKey_insertKey_ne (by decide), Value.lookupKey_insertKey_ne (by decide)]

theorem saysIncludes_of_fieldOr {source : Value} {further : List Value} {dirs : List String}
    (h : (fieldOr (prepared source further entries) "includes_dirs" (.ok defaultIncludesDirs) fun v =>
      checkList "includes_dirs" checkText (listOfOne v)) = .ok dirs) : SaysIncludes entries dirs := by
  rw [fieldOr, lookupKey_includes] at h
  unfold SaysIncludes
  split
  · next hnone =>
    rw [hnone] at h
    exact (Except.ok.inj h).symm
  · next hnull =>
    rw [hnull] at h
    exact (Except.ok.inj h).symm
  · next s hs =>
    rw [hs] at h
    exact (Except.ok.inj h).symm
  · next v hnonull hnotext hv =>
    rw [hv] at h
    have hcheck : checkList "includes_dirs" checkText v = .ok dirs := by
      cases v with
      | null => exact absurd rfl hnonull
      | text s => exact absurd rfl (hnotext s)
      | _ => exact h
    exact eq_of_checkList (fun _ _ _ => eq_of_checkText) hcheck

/-- The directories of a configuration are those that its entries say: the source and the further ones
seen from a directory, the others below the source, and all of them as they come. -/
structure IsRootedAt (base : Path) (entries : List (Value × Value)) (extra : List String) (config : SiteConfig) :
    Prop where
  source : ∃ s, given entries "source" (.text ".") = .text s ∧ config.source = base.append (.ofString s)
  includes : SaysIncludes entries config.includesDirs
  roots : Site.includeRoots ⟨config⟩ =
    config.includesDirs.map (fun dir => config.source.below dir.toList) ++
      extra.map fun s => base.append (.ofString s)

theorem isRootedAt {prepared : List (Value × Value)} (hextra : SaysExtra entries extra)
    (hprepared : anchored base entries = .ok prepared) (hconfig : ofEntries prepared = .ok config) :
    IsRootedAt base entries extra config := by
  obtain ⟨s, hs⟩ : (given entries "source" (.text ".")).IsText := by
    by_contra hnot
    rw [anchored_eq, seenFrom_of_not_isText base hnot] at hprepared
    cases hprepared
  have hpaths : pathsFrom base (given entries "extra_include_paths" (.list [])) =
      .ok (extra.map fun s => .text (base.append (.ofString s)).toString) := by
    rw [pathsFrom, given_extra hextra]
    exact mapM_seenFrom_texts base extra
  rw [anchored_eq, hs, seenFrom_text, hpaths] at hprepared
  obtain rfl := Except.ok.inj hprepared
  obtain ⟨hsource, hincludes, hfurther⟩ := fields_of_ofEntries hconfig
  rw [fieldOr, lookupKey_source] at hsource
  rw [fieldOr, lookupKey_extra] at hfurther
  have hsource' : config.source = base.append (.ofString s) := by
    have hread := (Except.ok.inj hsource).symm
    rwa [Path.ofString_toString] at hread
  have hfurther' : config.extraIncludePaths = extra.map fun s => base.append (.ofString s) := by
    have hchecked := checkList_paths "extra_include_paths" (extra.map fun s => (base.append (.ofString s)).toString)
    rw [List.map_map] at hchecked
    have hread := Except.ok.inj (hfurther.symm.trans hchecked)
    rw [hread, List.map_map]
    exact List.map_congr_left fun s _ => Path.ofString_toString _
  exact ⟨⟨s, hs, hsource'⟩, saysIncludes_of_fieldOr hincludes, congrArg _ hfurther'⟩

/-! ### Absolute paths -/

theorem isAbsolute_append (h : base.isAbsolute = true) (p : Path) : (base.append p).isAbsolute = true := by
  unfold Path.append
  cases hanchor : p.anchor with
  | here => exact h
  | _ => simp [Path.isAbsolute, hanchor]

theorem isAbsolute_below (h : base.isAbsolute = true) (cs : List Char) : (base.below cs).isAbsolute = true := by
  rw [Path.below_eq]
  exact h

theorem parts_below_prefix (p : Path) (cs : List Char) : p.parts <+: (p.below cs).parts := by
  rw [Path.below_eq, Path.parts_append]
  exact List.prefix_append ..

theorem IsRootedAt.isAbsolute (h : IsRootedAt base entries extra config) (hbase : base.isAbsolute = true) :
    config.source.isAbsolute = true ∧ ∀ root ∈ Site.includeRoots ⟨config⟩, root.isAbsolute = true := by
  obtain ⟨s, -, hsource⟩ := h.source
  have habsolute : config.source.isAbsolute = true := by
    rw [hsource]
    exact isAbsolute_append hbase _
  refine ⟨habsolute, fun root hroot => ?_⟩
  rw [h.roots, List.mem_append] at hroot
  rcases hroot with hroot | hroot
  · obtain ⟨dir, -, rfl⟩ := List.mem_map.1 hroot
    exact isAbsolute_below habsolute _
  · obtain ⟨s, -, rfl⟩ := List.mem_map.1 hroot
    exact isAbsolute_append hbase _

/-! ### Reading -/

theorem storedEntries_eq_ok_iff {text : List Char} :
    storedEntries path text = .ok entries ↔ FrontMatter.Gives text entries := by
  unfold storedEntries FrontMatter.Gives
  rw [Result.bind_eq_ok_iff]
  constructor
  · rintro ⟨v, hload, h⟩
    split at h
    · cases h
      exact .inl hload
    · split at h
      · cases h
      · next hfalse =>
        cases h
        exact .inr ⟨rfl, v, hload, by simpa using hfalse⟩
  · rintro (hload | ⟨rfl, v, hload, hfalse⟩)
    · exact ⟨_, hload, rfl⟩
    · refine ⟨v, hload, ?_⟩
      cases v with
      | dict own =>
        cases own with
        | nil => rfl
        | cons => cases hfalse
      | _ => simp only [hfalse]; rfl

theorem load_eq_ok_iff : load files path = .ok config ↔
    files.LeadsToFile path ∧ ∃ entries, Stores files path entries ∧
      ∃ prepared, anchored (files.realPath path.parent) entries = .ok prepared ∧
        ofEntries prepared = .ok config := by
  unfold load Stores
  rw [← Files.isFile_eq_true_iff, Result.bind_eq_ok_iff]
  constructor
  · rintro ⟨isThere, hthere, h⟩
    cases isThere with
    | false => cases h
    | true =>
      obtain ⟨bytes, hbytes, h⟩ := Result.bind_eq_ok_iff.1 h
      obtain ⟨text, htext, h⟩ := Result.bind_eq_ok_iff.1 h
      obtain ⟨entries, hentries, h⟩ := Result.bind_eq_ok_iff.1 h
      obtain ⟨prepared, hprepared, h⟩ := Result.bind_eq_ok_iff.1 h
      exact ⟨Result.mapError_eq_ok_iff.1 hthere, entries, ⟨bytes, text, Result.mapError_eq_ok_iff.1 hbytes,
        Result.mapError_eq_ok_iff.1 htext, storedEntries_eq_ok_iff.1 hentries⟩, prepared, hprepared,
        Result.mapError_eq_ok_iff.1 h⟩
  · rintro ⟨hthere, entries, ⟨bytes, text, hbytes, htext, hgives⟩, prepared, hprepared, hconfig⟩
    refine ⟨true, Result.mapError_eq_ok_iff.2 hthere, ?_⟩
    rw [hbytes]
    show ((decodeLines storedEncoding bytes).mapError inLastPiece).bind _ = _
    rw [htext]
    show (storedEntries path text).bind _ = _
    rw [storedEntries_eq_ok_iff.2 hgives]
    show (anchored (files.realPath path.parent) entries).bind _ = _
    rw [hprepared]
    exact Result.mapError_eq_ok_iff.2 hconfig

/-- A file holds the entries of one mapping. -/
theorem Stores.unique {other : List (Value × Value)} (h : Stores files path entries) (h' : Stores files path other) :
    entries = other := by
  obtain ⟨bytes, text, hread, hdecode, hgives⟩ := h
  obtain ⟨bytes', text', hread', hdecode', hgives'⟩ := h'
  obtain rfl := Except.ok.inj (hread.symm.trans hread')
  obtain rfl := Except.ok.inj (hdecode.symm.trans hdecode')
  exact Except.ok.inj ((FrontMatter.entries_eq_ok_iff.2 hgives).symm.trans (FrontMatter.entries_eq_ok_iff.2 hgives'))

/-- Whatever leads to the file of a configuration, its directory is reached without links, and all that
the configuration says is meant from there: the source, which is that directory unless the entries say
otherwise, and the further directories. The roots are those below the source, however many slashes they
begin with, and then the further ones; all of them are absolute, and come one for one as the entries do.
Another spelling of the directory makes no difference. -/
theorem load_roots (h : load files path = .ok config) :
    ∃ entries dir, Stores files path entries ∧ files.LeadsTo path.parent dir ∧ files.IsReal dir ∧
      (Files.pathOf dir).parts = ['/'] :: dir ∧
      (∀ extra, SaysExtra entries extra →
        IsRootedAt (Files.pathOf dir) entries extra config ∧ config.source.isAbsolute = true ∧
          (∀ root ∈ Site.includeRoots ⟨config⟩, root.isAbsolute = true) ∧
          ∀ text : String, config.source.parts <+: (config.source.below text.toList).parts) ∧
      ∀ other, files.LeadsToFile other → other.segments.getLast? = path.segments.getLast? →
        files.LeadsTo other.parent dir → load files other = .ok config := by
  obtain ⟨hfile, entries, hstores, prepared, hprepared, hconfig⟩ := load_eq_ok_iff.1 h
  obtain ⟨dir, -, hdir, hreal, -⟩ := hfile.exists_directory
  have hbase : files.realPath path.parent = Files.pathOf dir := by
    rw [Files.realPath, Files.place_eq_ok_iff.2 hdir]
  rw [hbase] at hprepared
  refine ⟨entries, dir, hstores, hdir, hreal, Files.parts_pathOf hreal, fun extra hextra => ?_,
    fun other hother hname hdir' => ?_⟩
  · have hrooted := isRootedAt hextra hprepared hconfig
    obtain ⟨hsource, hroots⟩ := hrooted.isAbsolute rfl
    exact ⟨hrooted, hsource, hroots, fun text => parts_below_prefix _ _⟩
  · have hbase' : files.realPath other.parent = Files.pathOf dir := by
      rw [Files.realPath, Files.place_eq_ok_iff.2 hdir']
    obtain ⟨bytes, text, hread, hdecode, hgives⟩ := hstores
    have hread' : files.read other = .ok bytes :=
      hother.read (hfile.eq_of_directory hother hname hdir hdir') hread
    refine load_eq_ok_iff.2 ⟨hother, entries, ⟨bytes, text, hread', hdecode, hgives⟩, prepared, ?_, hconfig⟩
    rw [hbase', hprepared]

/-- A configuration with two further directories, in a directory to which a link leads too; the directory
around it is at hand. -/
def linked : Files where
  nodes := [(["srv".toList], .directory), (["srv".toList, "site".toList], .directory),
    (["srv".toList, "site".toList, "site.yaml".toList], .file "extra_include_paths: [more, /else]".toUTF8.toList),
    (["at".toList], .link "srv/site".toList)]
  barriers := []
  workingPlace := ["srv".toList]
  isReal := .child (s := ⟨"srv".toList, rfl⟩) .root (by decide) (by decide) (by decide)

def linkedEntries : List (Value × Value) :=
  [(.text "extra_include_paths", .list [.text "more", .text "/else"])]

def linkedConfig : SiteConfig where
  source := .ofString "/srv/site"
  includesDirs := ["_includes"]
  extraIncludePaths := [.ofString "/srv/site/more", .ofString "/else"]
  collectionsDir := ""
  encoding := "utf-8"
  excerptSeparator := "\n\n"
  deprecatedDirectives := []

/-- The one key of a mapping, and the two texts that it has. -/
def soleTexts? : Except Fault Value → Option (String × String × String)
  | .ok (.dict [(.text key, .list [.text first, .text second])]) => some (key, first, second)
  | _ => none

theorem eq_of_soleTexts? {result : Except Fault Value} {key first second : String}
    (h : soleTexts? result = some (key, first, second)) :
    result = .ok (.dict [(.text key, .list [.text first, .text second])]) := by
  unfold soleTexts? at h
  split at h
  · cases h
    rfl
  · cases h

theorem stores_linked : Stores linked (.ofString "/at/site.yaml") linkedEntries :=
  ⟨"extra_include_paths: [more, /else]".toUTF8.toList, "extra_include_paths: [more, /else]".toList,
    Result.eq_ok_of_toOption (by decide +kernel), Result.eq_ok_of_toOption (by decide +kernel),
    .inl (eq_of_soleTexts? (by decide +kernel))⟩

theorem load_roots_linked :
    load linked (.ofString "/at/site.yaml") = .ok linkedConfig ∧
      IsRootedAt (.ofString "/srv/site") linkedEntries ["more", "/else"] linkedConfig ∧
      ∀ other ∈ ["/srv/site/site.yaml", "site/site.yaml", "../at/site.yaml"],
        load linked (.ofString other) = .ok linkedConfig := by
  have hload : load linked (.ofString "/at/site.yaml") = .ok linkedConfig :=
    Result.eq_ok_of_toOption (by decide +kernel)
  obtain ⟨entries, dir, hstores, hdir, -, -, hrooted, hspelling⟩ := load_roots hload
  obtain rfl := hstores.unique stores_linked
  have hplace (other : String) (h : (linked.place (.ofString other)).toOption = some ["srv".toList, "site".toList]) :
      linked.LeadsTo (.ofString other) ["srv".toList, "site".toList] :=
    Files.place_eq_ok_iff.1 (Result.eq_ok_of_toOption h)
  obtain rfl := hdir.unique (hplace "/at" (by decide +kernel))
  refine ⟨hload, (hrooted ["more", "/else"] rfl).1, fun other hother => ?_⟩
  simp only [List.mem_cons, List.not_mem_nil, or_false] at hother
  obtain rfl | rfl | rfl := hother
  · exact hspelling _ (by decide +kernel) rfl (hplace "/srv/site" (by decide +kernel))
  · exact hspelling _ (by decide +kernel) rfl (hplace "site" (by decide +kernel))
  · exact hspelling _ (by decide +kernel) rfl (hplace "../at" (by decide +kernel))

end SiteConfig

end Transclusion

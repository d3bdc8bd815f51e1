import Transclusion.Proofs.Runs
import Transclusion.Site.Load

/-! How reading a configuration ends.

A stored configuration is prepared before it is checked: its source and its further
directories are taken for paths, whatever they are. So a value of the wrong kind in one of
these two fields never comes to the checks. If it counts as false, it is passed over; if
not, and it is no text and not made of texts, preparing it is a misuse (`Misread`), which
is no fault of the configuration for whoever reads it. All else that is wrong is found by
the checks, each of which names the field that it is about (`ComplainsOf`). Together:
reading a mapping ends with a configuration, with complaints about the other five fields,
or with a misuse, and with a misuse exactly if the mapping is misread (`load_mapping`). -/
namespace Transclusion

/-! ### Keys that are texts -/

namespace Value

def IsText (v : Value) : Prop := ∃ s, v = .text s

/-- A list of texts, a mapping from texts, or a text, which is made of its letters. -/
def IsMadeOfTexts : Value → Prop
  | .list items => ∀ v ∈ items, v.IsText
  | .dict entries => ∀ entry ∈ entries, entry.1.IsText
  | .text _ => True
  | _ => False

theorem sameScalar_text (v : Value) (s : String) : sameScalar v (.text s) = (v.text? == some s) := by
  cases v with
  | float x =>
    unfold sameScalar
    cases (float x).magnitude? <;> rfl
  | _ => rfl

theorem sameKey_text (v : Value) (s : String) : sameKey v (.text s) = (v.text? == some s) := by
  unfold sameKey
  rw [sameScalar_text]
  cases v <;> simp

variable {entries : List (Value × Value)} {field other : String}

theorem lookupKey_cons (key v : Value) (entries : List (Value × Value)) :
    lookupKey (.text field) ((key, v) :: entries) =
      if key.text? = some field then some v else lookupKey (.text field) entries := by
  rw [lookupKey, sameKey_text]
  simp only [beq_iff_eq]

theorem lookupKey_insertKey (v : Value) (entries : List (Value × Value)) :
    lookupKey (.text field) (insertKey (.text field) v entries) = some v := by
  induction entries with
  | nil => exact (lookupKey_cons ..).trans (if_pos rfl)
  | cons entry rest ih =>
    obtain ⟨key, old⟩ := entry
    rw [insertKey, sameKey_text]
    split
    · next h => rw [lookupKey_cons, if_pos (beq_iff_eq.1 h)]
    · next h => rw [lookupKey_cons, if_neg (mt beq_iff_eq.2 h), ih]

theorem lookupKey_insertKey_ne (h : field ≠ other) (v : Value) (entries : List (Value × Value)) :
    lookupKey (.text field) (insertKey (.text other) v entries) = lookupKey (.text field) entries := by
  induction entries with
  | nil => rw [insertKey, lookupKey_cons, if_neg (by simpa [text?] using Ne.symm h)]
  | cons entry rest ih =>
    obtain ⟨key, old⟩ := entry
    rw [insertKey, sameKey_text]
    split
    · next hkey =>
      have hne : key.text? ≠ some field := by
        rw [beq_iff_eq.1 hkey]
        simpa using Ne.symm h
      rw [lookupKey_cons, lookupKey_cons, if_neg hne, if_neg hne]
    · rw [lookupKey_cons, lookupKey_cons, ih]

/-- Entries under other keys do not count. -/
theorem lookupKey_filter {keeps : Value × Value → Bool}
    (h : ∀ key v, key.text? = some field → keeps (key, v) = true) (entries : List (Value × Value)) :
    lookupKey (.text field) (entries.filter keeps) = lookupKey (.text field) entries := by
  induction entries with
  | nil => rfl
  | cons entry rest ih =>
    obtain ⟨key, v⟩ := entry
    cases hkeeps : keeps (key, v) with
    | true => rw [List.filter_cons_of_pos hkeeps, lookupKey_cons, lookupKey_cons, ih]
    | false =>
      have hne : key.text? ≠ some field := fun hkey => by simp [h key v hkey] at hkeeps
      rw [List.filter_cons_of_neg (by simp [hkeeps]), lookupKey_cons, if_neg hne, ih]

end Value

namespace SiteConfig
variable {entries : List (Value × Value)} {field other : String}

theorem lookupKey_withoutNull (h : field ≠ other) (entries : List (Value × Value)) :
    Value.lookupKey (.text field) (withoutNull other entries) = Value.lookupKey (.text field) entries := by
  unfold withoutNull
  split
  · refine Value.lookupKey_filter (fun key v hkey => ?_) entries
    simp [Value.sameScalar_text, hkey, h]
  · rfl

/-! ### Preparing -/

/-- A value of the configuration that is taken for a path, or for paths, is neither passed over nor fit for
that. -/
def Misread (entries : List (Value × Value)) : Prop :=
  (∃ v, Value.lookupKey (.text "source") entries = some v ∧ v.isTruthy = true ∧ ¬v.IsText) ∨
    ∃ v, Value.lookupKey (.text "extra_include_paths") entries = some v ∧ v.isTruthy = true ∧ ¬v.IsMadeOfTexts

/-- A field has what its value has, if it is not passed over, and else what the default has. -/
theorem given_iff {P : Value → Prop} {default : Value} (h : P default) :
    ¬P (given entries field default) ↔
      ∃ v, Value.lookupKey (.text field) entries = some v ∧ v.isTruthy = true ∧ ¬P v := by
  unfold given
  cases Value.lookupKey (.text field) entries with
  | none => simp [h]
  | some v =>
    cases htruthy : v.isTruthy with
    | false => simp [h, htruthy]
    | true => simp [htruthy]

theorem misread_iff : Misread entries ↔
    ¬(given entries "source" (.text ".")).IsText ∨
      ¬(given entries "extra_include_paths" (.list [])).IsMadeOfTexts := by
  have hsource : (Value.text ".").IsText := ⟨".", rfl⟩
  have hextra : (Value.list []).IsMadeOfTexts := fun v hv => absurd hv List.not_mem_nil
  rw [given_iff hsource, given_iff (P := Value.IsMadeOfTexts) hextra]
  rfl

theorem seenFrom_text (base : Path) (s : String) :
    seenFrom base (.text s) = .ok (.text (base.append (.ofString s)).toString) := rfl

theorem seenFrom_of_not_isText (base : Path) {v : Value} (h : ¬v.IsText) :
    seenFrom base v = .error (.misuse (.path v.kind)) := by
  cases v with
  | text s => exact absurd ⟨s, rfl⟩ h
  | _ => rfl

theorem isMadeOfTexts_iff {v : Value} :
    v.IsMadeOfTexts ↔ ∃ items, constituents v = .ok items ∧ ∀ w ∈ items, w.IsText := by
  cases v with
  | list items => simp [Value.IsMadeOfTexts, constituents]
  | dict entries => simp [Value.IsMadeOfTexts, constituents]
  | text s => simp [Value.IsMadeOfTexts, constituents, Value.IsText]
  | _ => simp [Value.IsMadeOfTexts, constituents]

/-- Texts are taken for paths one by one; anything else among them is a misuse. -/
theorem mapM_seenFrom (base : Path) (items : List Value) :
    ((∀ v ∈ items, v.IsText) → ∃ texts : List String, items.mapM (seenFrom base) = .ok (texts.map .text)) ∧
      ((∃ v ∈ items, ¬v.IsText) → ∃ misuse, items.mapM (seenFrom base) = .error (.misuse misuse)) := by
  induction items with
  | nil => exact ⟨fun _ => ⟨[], rfl⟩, fun ⟨v, hv, _⟩ => absurd hv List.not_mem_nil⟩
  | cons v rest ih =>
    rw [List.mapM_cons]
    by_cases hv : v.IsText
    · obtain ⟨s, rfl⟩ := hv
      rw [seenFrom_text]
      refine ⟨fun hall => ?_, fun ⟨w, hw, hnot⟩ => ?_⟩
      · obtain ⟨texts, htexts⟩ := ih.1 fun w hw => hall w (List.mem_cons_of_mem _ hw)
        exact ⟨(base.append (.ofString s)).toString :: texts, by rw [htexts]; rfl⟩
      · have hrest := (List.mem_cons.1 hw).resolve_left fun he => hnot ⟨s, he⟩
        obtain ⟨misuse, hmisuse⟩ := ih.2 ⟨w, hrest, hnot⟩
        exact ⟨misuse, by rw [hmisuse]; rfl⟩
    · rw [seenFrom_of_not_isText base hv]
      exact ⟨fun hall => absurd (hall v (List.mem_cons_self ..)) hv, fun _ => ⟨.path v.kind, rfl⟩⟩

/-- What is made of a value that is taken for paths. -/
def pathsFrom (base : Path) (v : Value) : Except Fault (List Value) := (constituents v).bind (·.mapM (seenFrom base))

theorem pathsFrom_of_isMadeOfTexts (base : Path) {v : Value} (h : v.IsMadeOfTexts) :
    ∃ texts : List String, pathsFrom base v = .ok (texts.map .text) := by
  obtain ⟨items, hitems, htexts⟩ := isMadeOfTexts_iff.1 h
  obtain ⟨texts, hmap⟩ := (mapM_seenFrom base items).1 htexts
  exact ⟨texts, by rw [pathsFrom, hitems]; exact hmap⟩

theorem pathsFrom_of_not_isMadeOfTexts (base : Path) {v : Value} (h : ¬v.IsMadeOfTexts) :
    ∃ misuse, pathsFrom base v = .error (.misuse misuse) := by
  cases hitems : constituents v with
  | error fault =>
    have hfault : fault = .misuse (.iteration v.qualifiedKind) := by
      cases v <;> simp_all [constituents]
    exact ⟨_, by rw [pathsFrom, hitems, hfault]; rfl⟩
  | ok items =>
    have hnot : ¬∀ w ∈ items, w.IsText := fun hall => h (isMadeOfTexts_iff.2 ⟨items, hitems, hall⟩)
    obtain ⟨misuse, hmap⟩ := (mapM_seenFrom base items).2 (by simpa using hnot)
    exact ⟨misuse, by rw [pathsFrom, hitems]; exact hmap⟩

/-- A prepared mapping has texts for the source and for the further directories, and the other fields as
they were given, nothing for directories and notices apart. -/
def prepared (source : Value) (extra : List Value) (entries : List (Value × Value)) : List (Value × Value) :=
  withoutNull "deprecated_directives" <| withoutNull "includes_dirs" <|
    Value.insertKey (.text "extra_include_paths") (.list extra) <|
      Value.insertKey (.text "source") source entries

theorem anchored_eq (base : Path) (entries : List (Value × Value)) :
    anchored base entries = (seenFrom base (given entries "source" (.text "."))).bind fun source =>
      (pathsFrom base (given entries "extra_include_paths" (.list []))).map fun extra =>
        prepared source extra entries := by
  unfold anchored pathsFrom
  cases seenFrom base (given entries "source" (.text ".")) with
  | error => rfl
  | ok source =>
    cases constituents (given entries "extra_include_paths" (.list [])) with
    | error => rfl
    | ok items => cases hmap : items.mapM (seenFrom base) <;> simp [bind, Except.bind, hmap] <;> rfl

/-- Preparing a mapping is a misuse if it is misread. -/
theorem anchored_of_misread (base : Path) {entries : List (Value × Value)} (h : Misread entries) :
    ∃ misuse, anchored base entries = .error (.misuse misuse) := by
  rw [anchored_eq]
  by_cases hsource : (given entries "source" (.text ".")).IsText
  · obtain ⟨s, hs⟩ := hsource
    have hextra := (misread_iff.1 h).resolve_left fun hnot => hnot ⟨s, hs⟩
    obtain ⟨misuse, hpaths⟩ := pathsFrom_of_not_isMadeOfTexts base hextra
    exact ⟨misuse, by rw [hs, seenFrom_text, hpaths]; rfl⟩
  · exact ⟨_, by rw [seenFrom_of_not_isText base hsource]; rfl⟩

/-- Otherwise it gives texts for all paths. -/
theorem anchored_of_not_misread (base : Path) {entries : List (Value × Value)} (h : ¬Misread entries) :
    ∃ (source : String) (extra : List String),
      anchored base entries = .ok (prepared (.text source) (extra.map .text) entries) := by
  obtain ⟨hsource, hextra⟩ : (given entries "source" (.text ".")).IsText ∧
      (given entries "extra_include_paths" (.list [])).IsMadeOfTexts := by
    simpa [misread_iff] using h
  obtain ⟨s, hs⟩ := hsource
  obtain ⟨texts, hpaths⟩ := pathsFrom_of_isMadeOfTexts base hextra
  exact ⟨_, texts, by rw [anchored_eq, hs, seenFrom_text, hpaths]; rfl⟩

theorem lookupKey_source (source : Value) (extra : List Value) (entries : List (Value × Value)) :
    Value.lookupKey (.text "source") (prepared source extra entries) = some source := by
  rw [prepared, lookupKey_withoutNull (by decide), lookupKey_withoutNull (by decide),
    Value.lookupKey_insertKey_ne (by decide), Value.lookupKey_insertKey]

theorem lookupKey_extra (source : Value) (extra : List Value) (entries : List (Value × Value)) :
    Value.lookupKey (.text "extra_include_paths") (prepared source extra entries) = some (.list extra) := by
  rw [prepared, lookupKey_withoutNull (by decide), lookupKey_withoutNull (by decide), Value.lookupKey_insertKey]

/-! ### Checking -/

/-- Complaints, if there are any, are about a field. -/
def ComplainsOf {α : Type} (field : String) (c : Checked α) : Prop :=
  ∀ es, c = .error es → es ≠ [] ∧ ∀ e ∈ es, e.location.head? = some (.field field)

section
variable {α β : Type}

theorem complainsOf_ok (field : String) (a : α) : ComplainsOf field (.ok a) := fun _ h => nomatch h

theorem complainsOf_complain (field : String) (rest : List LocationStep) (expected : Expectation) :
    ComplainsOf field (complain (α := α) (.field field :: rest) expected) := by
  intro es h
  obtain rfl := Except.error.inj h
  exact ⟨List.cons_ne_nil _ [], fun e he => by rw [List.mem_singleton.1 he]; rfl⟩

/-- Complaints about two parts of a field together. -/
theorem ComplainsOf.append {a : Checked α} {b : Checked β} {es fs : List Complaint} (ha : ComplainsOf field a)
    (hb : ComplainsOf field b) (he : a = .error es) (hf : b = .error fs) :
    es ++ fs ≠ [] ∧ ∀ e ∈ es ++ fs, e.location.head? = some (.field field) :=
  ⟨List.append_ne_nil_of_left_ne_nil (ha es he).1 fs,
    fun e hmem => (List.mem_append.1 hmem).elim ((ha es he).2 e) ((hb fs hf).2 e)⟩

theorem complainsOf_collect {cs : List (Checked α)} (h : ∀ c ∈ cs, ComplainsOf field c) :
    ComplainsOf field (collect cs) := by
  induction cs with
  | nil => exact complainsOf_ok field []
  | cons c rest ih =>
    have hc := h c (List.mem_cons_self ..)
    have hrest := ih fun d hd => h d (List.mem_cons_of_mem c hd)
    intro es hes
    unfold collect at hes
    split at hes
    · cases hes
    · next herror => exact Except.error.inj hes ▸ hrest _ herror
    · exact Except.error.inj hes ▸ hc _ rfl
    · next herror => exact Except.error.inj hes ▸ hc.append hrest rfl herror

theorem complainsOf_checkText (field : String) (rest : List LocationStep) (v : Value) :
    ComplainsOf field (checkText (.field field :: rest) v) := by
  cases v with
  | text s => exact complainsOf_ok field s
  | _ => exact complainsOf_complain field rest .text

theorem complainsOf_checkList {item : List LocationStep → Value → Checked α}
    (h : ∀ rest v, ComplainsOf field (item (.field field :: rest) v)) (v : Value) :
    ComplainsOf field (checkList field item v) := by
  cases v with
  | list items =>
    refine complainsOf_collect fun c hc => ?_
    obtain ⟨i, hi, rfl⟩ := List.mem_mapIdx.1 hc
    exact h _ _
  | _ => exact complainsOf_complain field [] .list

theorem complainsOf_checkEntry (field : String) (entry : Value × Value) :
    ComplainsOf field (checkEntry field entry) := by
  obtain ⟨key, v⟩ := entry
  have hkey := complainsOf_checkText field [keyStep key, .field "[key]"] key
  have hv := complainsOf_checkText field [keyStep key] v
  intro es hes
  simp only [checkEntry] at hes
  split at hes
  · cases hes
  · next herror _ => exact Except.error.inj hes ▸ hkey _ herror
  · next herror => exact Except.error.inj hes ▸ hv _ herror
  · next herror herror' => exact Except.error.inj hes ▸ hkey.append hv herror herror'

theorem complainsOf_checkMapping (field : String) (v : Value) : ComplainsOf field (checkMapping field v) := by
  cases v with
  | dict entries =>
    refine complainsOf_collect fun c hc => ?_
    obtain ⟨entry, -, rfl⟩ := List.mem_map.1 hc
    exact complainsOf_checkEntry field entry
  | _ => exact complainsOf_complain field [] .mapping

theorem complainsOf_fieldOr {default : Checked α} {check : Value → Checked α} (hdefault : ComplainsOf field default)
    (hcheck : ∀ v, ComplainsOf field (check v)) : ComplainsOf field (fieldOr entries field default check) := by
  unfold fieldOr
  split
  · exact hdefault
  · exact hcheck _

theorem ComplainsOf.complaints {c : Checked α} (h : ComplainsOf field c) :
    ∀ e ∈ SiteConfig.complaints c, e.location.head? = some (.field field) := by
  cases c with
  | ok => exact fun e he => absurd he List.not_mem_nil
  | error es => exact (h es rfl).2

theorem ComplainsOf.complaints_eq_nil {c : Checked α} (h : ComplainsOf field c) (hnone : SiteConfig.complaints c = []) :
    ∃ a, c = .ok a := by
  cases c with
  | ok a => exact ⟨a, rfl⟩
  | error es => exact absurd hnone (h es rfl).1

end

/-- The fields that are checked as they were given. -/
def fieldsAsGiven : List String :=
  ["includes_dirs", "collections_dir", "encoding", "excerpt_separator", "deprecated_directives"]

theorem collect_ok {α : Type} {cs : List (Checked α)} (h : ∀ c ∈ cs, ∃ a, c = .ok a) : ∃ as, collect cs = .ok as := by
  induction cs with
  | nil => exact ⟨[], rfl⟩
  | cons c rest ih =>
    obtain ⟨a, rfl⟩ := h c (List.mem_cons_self ..)
    obtain ⟨as, has⟩ := ih fun d hd => h d (List.mem_cons_of_mem _ hd)
    exact ⟨a :: as, by simp only [collect, has]⟩

/-- Texts are good further directories. -/
theorem checkList_texts (field : String) (texts : List String) :
    ∃ paths, checkList field checkPath (.list (texts.map .text)) = .ok paths := by
  refine collect_ok fun c hc => ?_
  obtain ⟨i, hi, rfl⟩ := List.mem_mapIdx.1 hc
  exact ⟨_, by rw [List.getElem_map]; rfl⟩

/-- Where both paths are good, complaints are about fields that are checked as they were given. -/
theorem ofEntries_complaints {source : Path} {paths : List Path} {es : List Complaint}
    (hsource : fieldOr entries "source" (complain [.field "source"] .present) (checkPath [.field "source"]) =
      .ok source)
    (hextra : (fieldOr entries "extra_include_paths" (.ok []) fun v =>
      checkList "extra_include_paths" checkPath v) = .ok paths)
    (h : ofEntries entries = .error es) :
    es ≠ [] ∧ ∀ e ∈ es, ∃ field ∈ fieldsAsGiven, e.location.head? = some (.field field) := by
  have hincludes : ComplainsOf "includes_dirs" (fieldOr entries "includes_dirs" (.ok defaultIncludesDirs)
      fun v => checkList "includes_dirs" checkText (listOfOne v)) :=
    complainsOf_fieldOr (complainsOf_ok _ _) fun v => complainsOf_checkList (complainsOf_checkText _) _
  have hcollections : ComplainsOf "collections_dir" (fieldOr entries "collections_dir" (.ok "")
      fun v => checkText [.field "collections_dir"] (emptyText v)) :=
    complainsOf_fieldOr (complainsOf_ok _ _) fun v => complainsOf_checkText _ [] _
  have hencoding : ComplainsOf "encoding" (fieldOr entries "encoding" (.ok defaultEncoding)
      (checkText [.field "encoding"])) :=
    complainsOf_fieldOr (complainsOf_ok _ _) fun v => complainsOf_checkText _ [] _
  have hseparator : ComplainsOf "excerpt_separator" (fieldOr entries "excerpt_separator"
      (.ok defaultExcerptSeparator) (checkText [.field "excerpt_separator"])) :=
    complainsOf_fieldOr (complainsOf_ok _ _) fun v => complainsOf_checkText _ [] _
  have hnotices : ComplainsOf "deprecated_directives" (fieldOr entries "deprecated_directives" (.ok [])
      fun v => checkMapping "deprecated_directives" v) :=
    complainsOf_fieldOr (complainsOf_ok _ _) fun v => complainsOf_checkMapping _ v
  simp only [ofEntries, hsource, hextra] at h
  generalize fieldOr entries "includes_dirs" _ _ = includes at h hincludes
  generalize fieldOr entries "collections_dir" _ _ = collections at h hcollections
  generalize fieldOr entries "encoding" _ _ = encoding at h hencoding
  generalize fieldOr entries "excerpt_separator" _ _ = separator at h hseparator
  generalize fieldOr entries "deprecated_directives" _ _ = notices at h hnotices
  split at h
  · cases h
  · next hnot =>
    obtain rfl := Except.error.inj h
    simp only [complaints, List.nil_append, List.append_nil]
    refine ⟨fun hnone => ?_, fun e he => ?_⟩
    · -- were there no complaint, all seven checks would have passed
      simp only [List.append_eq_nil_iff] at hnone
      obtain ⟨⟨⟨⟨hnone₁, hnone₂⟩, hnone₃⟩, hnone₄⟩, hnone₅⟩ := hnone
      obtain ⟨_, rfl⟩ := hincludes.complaints_eq_nil hnone₁
      obtain ⟨_, rfl⟩ := hcollections.complaints_eq_nil hnone₂
      obtain ⟨_, rfl⟩ := hencoding.complaints_eq_nil hnone₃
      obtain ⟨_, rfl⟩ := hseparator.complaints_eq_nil hnone₄
      obtain ⟨_, rfl⟩ := hnotices.complaints_eq_nil hnone₅
      exact hnot _ _ _ _ _ _ _ rfl rfl rfl rfl rfl rfl rfl
    · simp only [List.mem_append] at he
      obtain (((he | he) | he) | he) | he := he
      · exact ⟨_, by decide, hincludes.complaints e he⟩
      · exact ⟨_, by decide, hcollections.complaints e he⟩
      · exact ⟨_, by decide, hencoding.complaints e he⟩
      · exact ⟨_, by decide, hseparator.complaints e he⟩
      · exact ⟨_, by decide, hnotices.complaints e he⟩

/-! ### Reading -/

/-- A path leads to a file with the text of a mapping. -/
structure HoldsMapping (files : Files) (path : Path) (entries : List (Value × Value)) : Prop where
  isFile : files.isFile path = .ok true
  isText : ∃ bytes text, files.read path = .ok bytes ∧ decodeLines storedEncoding bytes = .ok text ∧
    Yaml.load text = .ok (.dict entries)

theorem load_eq {files : Files} {path : Path} (h : HoldsMapping files path entries) :
    load files path = (anchored (files.realPath path.parent) entries).bind fun prepared =>
      (ofEntries prepared).mapError (.configuration path.toString) := by
  obtain ⟨hfile, bytes, text, hread, hdecode, hload⟩ := h
  have hstored : storedEntries path text = .ok entries := by
    rw [storedEntries, hload]
    rfl
  unfold load
  rw [hfile, hread]
  show ((decodeLines storedEncoding bytes).mapError inLastPiece).bind _ = _
  rw [hdecode]
  show (storedEntries path text).bind _ = _
  rw [hstored]
  rfl

/-- How reading a mapping ends. A mapping that is misread is a misuse, and so is every list of further
directories with anything but texts in it. Any other mapping gives a configuration, or complaints, each of
them about a field that is checked as it was given: a source that is no text, or further directories that
are no list, are never complained of. -/
theorem load_mapping {files : Files} {path : Path} (h : HoldsMapping files path entries) :
    (Misread entries → ∃ misuse, load files path = .error (.misuse misuse)) ∧
      (¬Misread entries →
        (∃ config, load files path = .ok config) ∨
          ∃ es, load files path = .error (.configuration path.toString es) ∧ es ≠ [] ∧
            ∀ e ∈ es, ∃ field ∈ fieldsAsGiven, e.location.head? = some (.field field)) ∧
      ∀ items, Value.lookupKey (.text "extra_include_paths") entries = some (.list items) →
        (∃ v ∈ items, ¬v.IsText) → Misread entries := by
  rw [load_eq h]
  refine ⟨fun hmisread => ?_, fun hread => ?_, fun items hitems ⟨v, hv, hnot⟩ => ?_⟩
  · obtain ⟨misuse, hanchored⟩ := anchored_of_misread (files.realPath path.parent) hmisread
    exact ⟨misuse, by rw [hanchored]; rfl⟩
  · obtain ⟨source, extra, hanchored⟩ := anchored_of_not_misread (files.realPath path.parent) hread
    obtain ⟨paths, hpaths⟩ := checkList_texts "extra_include_paths" extra
    rw [hanchored]
    cases hresult : ofEntries (prepared (.text source) (extra.map .text) entries) with
    | ok config => exact .inl ⟨config, by rw [Except.bind, hresult]; rfl⟩
    | error es =>
      refine .inr ⟨es, by rw [Except.bind, hresult]; rfl, ?_⟩
      exact ofEntries_complaints (by rw [fieldOr, lookupKey_source]; rfl)
        (by rw [fieldOr, lookupKey_extra]; exact hpaths) hresult
  · have htruthy : (Value.list items).isTruthy = true := by
      cases items with
      | nil => exact absurd hv List.not_mem_nil
      | cons => rfl
    exact .inr ⟨_, hitems, htruthy, fun hall => hnot (hall v hv)⟩

/-- A configuration with a number for the source, and no other file. -/
def numbered : Files := .ofNodes [(["site.yaml".toList], .file "source: 5\n".toUTF8.toList)]

theorem decodes_numbered : decodeLines storedEncoding "source: 5\n".toUTF8.toList = .ok "source: 5\n".toList :=
  Result.eq_ok_of_toOption (by decide +kernel)

/-- The one key of a mapping, and the number that it has. -/
def soleNumber? : Except Fault Value → Option (String × Int)
  | .ok (.dict [(.text key, .int n)]) => some (key, n)
  | _ => none

theorem eq_of_soleNumber? {result : Except Fault Value} {key : String} {n : Int}
    (h : soleNumber? result = some (key, n)) : result = .ok (.dict [(.text key, .int n)]) := by
  unfold soleNumber? at h
  split at h
  · cases h
    rfl
  · cases h

theorem loads_numbered : Yaml.load "source: 5\n".toList = .ok (.dict [(.text "source", .int 5)]) :=
  eq_of_soleNumber? (by decide +kernel)

theorem holdsMapping_numbered : HoldsMapping numbered (.ofString "/site.yaml") [(.text "source", .int 5)] :=
  ⟨rfl, "source: 5\n".toUTF8.toList, "source: 5\n".toList, rfl, decodes_numbered, loads_numbered⟩

theorem load_mapping_numbered :
    HoldsMapping numbered (.ofString "/site.yaml") [(.text "source", .int 5)] ∧
      Misread [(.text "source", .int 5)] ∧
      ∃ misuse, load numbered (.ofString "/site.yaml") = .error (.misuse misuse) := by
  have hmisread : Misread [(.text "source", .int 5)] := .inl ⟨.int 5, rfl, rfl, fun ⟨_, h⟩ => nomatch h⟩
  exact ⟨holdsMapping_numbered, hmisread, (load_mapping holdsMapping_numbered).1 hmisread⟩

/-- Reading a mapping can end with a fault that is none of the configuration. -/
theorem load_misuse :
    ¬∀ (files : Files) (path : Path) (entries : List (Value × Value)), HoldsMapping files path entries →
      (∃ config, load files path = .ok config) ∨
        ∃ fault, load files path = .error fault ∧ fault.kind = "SiteConfigError" := by
  intro h
  have hmisuse : load numbered (.ofString "/site.yaml") = .error (.misuse (.path "int")) := by
    rw [load_eq holdsMapping_numbered]
    rfl
  obtain ⟨config, hconfig⟩ | ⟨fault, hfault, hkind⟩ := h _ _ _ holdsMapping_numbered
  · cases hmisuse.symm.trans hconfig
  · obtain rfl := Except.error.inj (hmisuse.symm.trans hfault)
    exact absurd hkind (by decide)

end SiteConfig

end Transclusion

import Transclusion.Proofs.Footprints

/-! How a directive ends.

A directive whose reference is written out ends in one of the ways that `Ending` lists,
a constructor for each, with the fault that leaves and the condition under which it does
(`executeWith_ending`). The faults of inclusion are the expected ones. Three others leave
as they arose: a candidate that cannot be looked up, or a file that cannot be read; a
source that the host refuses by a fault that it does not count as a rejection; and an
argument that looks for a member of an undefined value (`execute_unreported`). -/
namespace Transclusion.Inclusion
open Directive

variable {C : Type}

/-- The file that a directive includes by the reference that it is written with. -/
structure Located (setting : Setting) (invocation : Invocation) (path : Path) : Prop where
  safe : isSafeReference invocation.markup.reference = true
  first : FirstOf setting.files
    (invocation.candidates setting (String.ofList invocation.markup.reference)) path
  isFile : setting.files.isFile path = .ok true

/-- How a directive ends that is entered from a pass and whose reference is written out. -/
inductive Ending (host : Host C) (setting : Setting) (inclusion : Invocation → Run (Pass C) String)
    (invocation : Invocation) (p : Pass C) : Except Fault String → Prop
  /-- The reference is not safe. -/
  | refused : isSafeReference invocation.markup.reference = false →
      Ending host setting inclusion invocation p (.error (.unsafeReference invocation.tag
        (String.ofList invocation.markup.reference) (syntaxExample invocation.tag)))
  /-- No root holds the file. -/
  | nowhere : isSafeReference invocation.markup.reference = true →
      (∀ path ∈ invocation.candidates setting (String.ofList invocation.markup.reference),
        setting.files.isFile path = .ok false) →
      Ending host setting inclusion invocation p (.error (.notFound
        (String.ofList invocation.markup.reference)
        (invocation.strategy.roots setting.site setting.document)))
  /-- A name is too long to be looked up, or a directory on the way is barred; no root before holds the
  file. -/
  | unsearchable {path : Path} {why : LookupFault} : isSafeReference invocation.markup.reference = true →
      FirstOf setting.files (invocation.candidates setting (String.ofList invocation.markup.reference)) path →
      setting.files.isFile path = .error why → (why = .nameTooLong ∨ ∃ barrier, why = .barred barrier) →
      Ending host setting inclusion invocation p (.error (.lookup why path.toString))
  /-- The file was located, and cannot be read. -/
  | unreadable {path : Path} {why : Files.AccessFault} : Located setting invocation path →
      p.cache.find? path.toString = none → setting.files.read path = .error why →
      Ending host setting inclusion invocation p (.error (.ofAccess why))
  /-- The host rejects what was read, or what is included in it is malformed. -/
  | rejected {path : Path} {bytes : List UInt8} {d e : Desk} {fault : Fault} :
      Located setting invocation path → p.cache.find? path.toString = none →
      setting.files.read path = .ok bytes →
      (host.compile (.bytes bytes) path.toString).start d = (.error fault, e) →
      (fault.isInclusion || host.rejects fault) = true →
      Ending host setting inclusion invocation p (.error (.compilation path.toString fault))
  /-- The host cannot compile what was read, and does not count that as a rejection. -/
  | uncompiled {path : Path} {bytes : List UInt8} {d e : Desk} {fault : Fault} :
      Located setting invocation path → p.cache.find? path.toString = none →
      setting.files.read path = .ok bytes →
      (host.compile (.bytes bytes) path.toString).start d = (.error fault, e) →
      (fault.isInclusion || host.rejects fault) = false →
      Ending host setting inclusion invocation p (.error fault)
  /-- An argument has no value. -/
  | unbound {path : Path} {fault : Fault} : Located setting invocation path →
      invocation.values p.scope host.unset host.attributes = .error fault →
      Ending host setting inclusion invocation p (.error fault)
  /-- The partial ran; what leaves it is changed on the way out. -/
  | ran {path : Path} {d : Desk} {s : Store C} {compiled : C} {arguments : Option Bindings} :
      Located setting invocation path → (fetch host setting.files path).start ⟨p.cache, d⟩ = (.ok compiled, s) →
      invocation.values p.scope host.unset host.attributes = .ok arguments →
      Ending host setting inclusion invocation p
        ((((host.script compiled).play inclusion).start (Pass.launched ⟨p.scope, s⟩ invocation
          (String.ofList invocation.markup.reference) path arguments)).1.mapError
            (host.leaving path.toString))

/-- Only a name that is too long and a directory that is barred keep a path from being looked up. -/
theorem why_of_isFile {files : Files} {path : Path} {why : LookupFault}
    (h : files.isFile path = .error why) : why = .nameTooLong ∨ ∃ barrier, why = .barred barrier := by
  unfold Files.isFile at h
  split at h
  · simp at h
  · split at h
    · simp at h
    · next fault _ =>
      split at h
      · next hfatal =>
        obtain rfl := Except.error.inj h
        cases fault <;> simp [Files.LookupFault.isFatal] at hfatal ⊢
      · simp at h

section
variable {host : Host C} {setting : Setting} {inclusion : Invocation → Run (Pass C) String}
  {invocation : Invocation} {p : Pass C} {path : Path}

/-- A fetch that fails is one of a file that cannot be read, or cannot be compiled. -/
theorem ending_of_fetch (hlocated : Located setting invocation path) {s t : Store C}
    (hcache : s.cache = p.cache) {fault : Fault}
    (hfetch : (fetch host setting.files path).start s = (.error fault, t)) :
    Ending host setting inclusion invocation p (.error fault) := by
  cases hfind : s.cache.find? path.toString with
  | some compiled =>
    rw [start_fetch_hit hfind] at hfetch
    simp at hfetch
  | none =>
    have hunfound : p.cache.find? path.toString = none := hcache ▸ hfind
    rw [start_fetch_miss hfind, start_fetchAnew] at hfetch
    cases hread : setting.files.read path with
    | error why =>
      simp only [hread, Prod.mk.injEq, Except.error.injEq] at hfetch
      exact hfetch.1 ▸ .unreadable hlocated hunfound hread
    | ok bytes =>
      simp only [hread] at hfetch
      rcases hcompile : (host.compile (.bytes bytes) path.toString).start
        ((s.desk.add (.read path)).add (.compile path.toString)) with ⟨cause | compiled, e⟩
      · simp only [hcompile, Prod.mk.injEq, Except.error.injEq] at hfetch
        cases hrejects : cause.isInclusion || host.rejects cause with
        | true =>
          rw [hrejects, if_pos rfl] at hfetch
          exact hfetch.1 ▸ .rejected hlocated hunfound hread hcompile hrejects
        | false =>
          rw [hrejects, if_neg Bool.false_ne_true] at hfetch
          exact hfetch.1 ▸ .uncompiled hlocated hunfound hread hcompile hrejects
      · simp [hcompile] at hfetch

/-- A reference that is written out comes to itself. -/
theorem start_literal (hliteral : invocation.markup.isTemplated = false) (p : Pass C) :
    (effectiveReference host inclusion invocation).start p =
      (.ok (String.ofList invocation.markup.reference), p) := by
  unfold effectiveReference
  rw [if_neg (by simp [hliteral])]
  rfl

theorem checkReference_letters (tag : String) (letters : List Char) :
    checkReference tag (String.ofList letters) =
      if isSafeReference letters then .ok ()
      else .error (.unsafeReference tag (String.ofList letters) (syntaxExample tag)) := by
  rw [checkReference, String.toList_ofList]

end

/-- Every directive whose reference is written out ends in one of these ways. -/
theorem executeWith_ending (host : Host C) (setting : Setting) (depth : Nat) (invocation : Invocation)
    (hliteral : invocation.markup.isTemplated = false) (p : Pass C) :
    Ending host setting (executeWith host setting (fetch host setting.files) depth) invocation p
      ((executeWith host setting (fetch host setting.files) (depth + 1) invocation).start p).1 := by
  let reference := String.ofList invocation.markup.reference
  let entered := p.add (.enter invocation.tag)
  have heval : (effectiveReference host (executeWith host setting (fetch host setting.files) depth)
      invocation).start entered = (.ok reference, entered) := start_literal hliteral entered
  have htouched : Desk.Touches .none entered.desk entered.desk := .refl _
  cases hsafe : isSafeReference invocation.markup.reference with
  | false =>
    have hcheck : checkReference invocation.tag reference =
        .error (.unsafeReference invocation.tag reference (syntaxExample invocation.tag)) := by
      rw [checkReference_letters, hsafe]
      rfl
    rw [(halts_refused heval htouched rfl hcheck).outcome]
    exact .refused hsafe
  | true =>
    have hcheck : checkReference invocation.tag reference = .ok () := by
      rw [checkReference_letters, hsafe]
      rfl
    rcases hfound : found setting.files (invocation.candidates setting reference) with fault | _ | path
    · obtain ⟨path, why, hfirst, hfile, rfl⟩ := found_eq_error hfound
      rw [(halts_lookup heval htouched rfl hcheck hfound).outcome]
      exact .unsearchable hsafe hfirst hfile (why_of_isFile hfile)
    · rw [(halts_nowhere heval htouched rfl hcheck hfound).outcome]
      exact .nowhere hsafe (found_eq_none_iff.1 hfound)
    · obtain ⟨hfirst, hfile⟩ := found_eq_some hfound
      have hlocated : Located setting invocation path := ⟨hsafe, hfirst, hfile⟩
      rcases hfetch : (fetch host setting.files path).start
        (entered.searched setting invocation reference).store with ⟨fault | compiled, s⟩
      · have hstages : (stages host setting (fetch host setting.files)
            (executeWith host setting (fetch host setting.files) depth) invocation).start entered = _ :=
          start_unfetched heval hcheck hfound hfetch invocation.markup.arguments
        rw [start_executeWith, hstages]
        have hcache : (entered.searched setting invocation reference).store.cache = p.cache := rfl
        exact ending_of_fetch hlocated hcache hfetch
      · rw [start_executeWith, start_fetched heval hcheck hfound hfetch]
        have hscope : entered.scope = p.scope := rfl
        cases hvalues : invocation.values p.scope host.unset host.attributes with
        | error fault =>
          rw [hscope, hvalues]
          exact .unbound hlocated hvalues
        | ok arguments =>
          have houter (invocation : Invocation) : (executeWith host setting (fetch host setting.files) depth
              invocation).Keeps (Pass.Within fun _ _ => True) := outer_executeWith setting depth invocation
          obtain ⟨r, hrun, -⟩ := start_running houter arguments compiled invocation reference path ⟨p.scope, s⟩
          rw [hscope, hvalues]
          dsimp only
          rw [hrun]
          exact .ran hlocated hfetch hvalues

/-- A page that includes a partial with an argument. -/
theorem executeWith_ending_argument :
    let host := Template.host .standard ⟨.empty, none⟩ "utf-8"
    let setting : Setting :=
      ⟨.ofNodes [(["p.html".toList], .file [72, 105])], ⟨⟨.ofString "/site", [], [], "", "utf-8", "\n\n", []⟩⟩, none⟩
    let invocation : Invocation := ⟨"include_file", .of "p.html k=x.z".toList, .fixed ["/"]⟩
    let p : Pass Template.Compiled := .fresh .empty [("x", .undefined (.name "y"))]
    invocation.markup.isTemplated = false ∧
      Ending host setting (executeWith host setting (fetch host setting.files) 0) invocation p
        ((executeWith host setting (fetch host setting.files) 1 invocation).start p).1 := by
  intro host setting invocation p
  have hliteral : invocation.markup.isTemplated = false := by decide +kernel
  exact ⟨hliteral, executeWith_ending host setting 0 invocation hliteral p⟩

/-- A directive ends with the fault of the first candidate that cannot be looked up. -/
theorem executeWith_unsearchable (host : Host C) (setting : Setting) (depth : Nat) {invocation : Invocation}
    (hliteral : invocation.markup.isTemplated = false)
    (hsafe : isSafeReference invocation.markup.reference = true) {path : Path} {why : LookupFault}
    (hfirst : FirstOf setting.files
      (invocation.candidates setting (String.ofList invocation.markup.reference)) path)
    (hfile : setting.files.isFile path = .error why) (p : Pass C) :
    ((executeWith host setting (fetch host setting.files) (depth + 1) invocation).start p).1 =
      .error (.lookup why path.toString) := by
  have hcheck : checkReference invocation.tag (String.ofList invocation.markup.reference) = .ok () := by
    rw [checkReference_letters, if_pos hsafe]
  exact (halts_lookup (start_literal hliteral _) (.refl _) rfl hcheck (found_of_firstOf hfirst hfile)).outcome

/-- What leaves a directive that names a file of 256 letters, one whose partial is in an encoding that is not
known, and one with a member of an undefined value for an argument: none is a fault of inclusion. -/
theorem execute_unreported :
    let site : Site := ⟨⟨.ofString "/site", ["_includes"], [], "", "utf-8", "\n\n", []⟩⟩
    let files : Files := .ofNodes [(["p.html".toList], .file [72, 105])]
    let p : Pass Template.Compiled := .fresh .empty [("x", .undefined (.name "y"))]
    let ending (encoding : String) (reference : List Char) (arguments : Option (List Char)) :=
      ((execute (Template.host .standard ⟨.empty, none⟩ encoding) ⟨files, site, none⟩
        ⟨"include_file", ⟨reference, arguments, false⟩, .fixed ["/"]⟩).start p).1
    [ending "utf-8" (List.replicate 256 'a') none, ending "utf-9" "p.html".toList none,
      ending "utf-8" "p.html".toList (some "k=x.z".toList)].map
        (fun outcome => (faultOf? outcome).map fun fault => (fault.kind, fault.isInclusion)) =
      [some ("OSError", false), some ("LookupError", false), some ("UndefinedError", false)] := by
  intro site files p ending
  -- The lemma leaves only the lookup of the long name to be evaluated.
  have hcandidates (letters : List Char) : candidates (String.ofList letters) ["/"] =
      [joinReference (.ofString "/") letters] := by simp [candidates]
  have hfile : files.isFile (joinReference (.ofString "/") (List.replicate 256 'a')) = .error .nameTooLong :=
    faultOf?_eq_some.1 (by decide +kernel)
  have hlong : ending "utf-8" (List.replicate 256 'a') none = .error (.lookup .nameTooLong
      (joinReference (.ofString "/") (List.replicate 256 'a')).toString) := by
    let invocation : Invocation := ⟨"include_file", ⟨List.replicate 256 'a', none, false⟩, .fixed ["/"]⟩
    have hsafe : isSafeReference invocation.markup.reference = true := by decide +kernel
    have hfirst : FirstOf files
        (invocation.candidates ⟨files, site, none⟩ (String.ofList invocation.markup.reference)) _ :=
      ⟨[], [], hcandidates _, by simp⟩
    exact executeWith_unsearchable _ ⟨files, site, none⟩ _ rfl hsafe hfirst hfile p
  have hothers : [ending "utf-9" "p.html".toList none, ending "utf-8" "p.html".toList (some "k=x.z".toList)].map
      (fun outcome => (faultOf? outcome).map fun fault => (fault.kind, fault.isInclusion)) =
        [some ("LookupError", false), some ("UndefinedError", false)] := by
    decide +kernel
  rw [List.map_cons, hothers, hlong]
  rfl

end Transclusion.Inclusion

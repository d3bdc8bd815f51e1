import Transclusion.Proofs.Stops
import Transclusion.Proofs.Templates
import Transclusion.Segments

/-! Failing partials.

A fault that arises in a partial and is wrapped there crosses every further
partial that was entered. What leaves the outermost one says all along which
partial failed and why, and has grown by one path at every partial: its row of
paths, its template, its particulars and its words tell of the same partials
(`IsFailureOf`), as each crossing leaves them (`IsFailureOf.crossing`). One failure
is reported, that of the innermost partial. A fault that is not wrapped crosses all
of them unchanged, and nothing is reported (`executeWith_failure`). -/
namespace Transclusion

/-- A fault tells that the partial at a path failed, and why, and that it crossed a trail of partials,
innermost first. -/
structure Fault.IsFailureOf (fault : Fault) (path : String) (cause : Fault) (trail : List String) : Prop where
  wrapper : ∃ crossed, fault = .execution path cause crossed
  kind : fault.kind = "PartialExecutionError"
  chain : fault.chain = trail
  /-- The template that is reported is that of the outermost partial. -/
  template : fault.templateName? = trail.getLast?
  context : fault.context? = some "included"
  details : fault.details = [("path", .text path), ("error_type", .text cause.kind)] ++
    if 2 ≤ trail.length then [("include_chain", .texts trail)] else []
  message : fault.message = "Error in included file '" ++ path ++ "': " ++ cause.message ++
    if 2 ≤ trail.length then "\n  include chain: " ++ " <- ".intercalate trail else ""
  args : fault.args = [.text fault.message]

theorem Fault.isFailureOf_execution (path : String) (cause : Fault) (crossed : List String) :
    (Fault.execution path cause crossed).IsFailureOf path cause (path :: crossed) where
  wrapper := ⟨crossed, rfl⟩
  kind := rfl
  chain := rfl
  template := by
    rw [List.getLast?_cons, ← List.getLastD_eq_getLast?]
    rfl
  context := rfl
  details := by cases crossed <;> simp [Fault.details]
  message := by
    have hmessage : (Fault.execution path cause crossed).message =
        "Error in included file '" ++ path ++ "': " ++ cause.message ++
          (if crossed.isEmpty then "" else "\n  include chain: " ++ " <- ".intercalate (path :: crossed)) := rfl
    rw [hmessage]
    cases crossed <;> simp
  args := rfl

/-- What one more partial that is crossed does to a failure: its row of paths grows at the end, by the path of the
template that is reported from there on, and stands among the particulars and in the words anew; the rest stays. -/
theorem Fault.crossing_execution (source : String) (cause : Fault) (crossed : List String) (path : String) :
    let fault := Fault.execution source cause crossed
    let later := fault.crossing path
    later.chain = fault.chain ++ [path] ∧
    later.templateName? = some path ∧
    later.context? = fault.context? ∧
    later.details = fault.details.filter (·.1 ≠ "include_chain") ++ [("include_chain", .texts later.chain)] ∧
    later.message = (Fault.execution source cause []).message ++ "\n  include chain: " ++
      " <- ".intercalate later.chain ∧
    later.args = [.text later.message] := by
  refine ⟨rfl, ?_, rfl, ?_, ?_, rfl⟩
  · rw [crossing, templateName?, List.getLastD_concat]
  · cases crossed <;> simp [crossing, details, chain]
  · have hmessage (crossed : List String) : (Fault.execution source cause crossed).message =
        "Error in included file '" ++ source ++ "': " ++ cause.message ++
          (if crossed.isEmpty then "" else "\n  include chain: " ++ " <- ".intercalate (source :: crossed)) := rfl
    rw [crossing, hmessage, hmessage, chain]
    simp [String.append_assoc]

/-- A failure stays one of the same partial when it crosses another. -/
theorem Fault.IsFailureOf.crossing {fault cause : Fault} {path : String} {trail : List String}
    (h : fault.IsFailureOf path cause trail) (outer : String) :
    (fault.crossing outer).IsFailureOf path cause (trail ++ [outer]) := by
  obtain ⟨crossed, rfl⟩ := h.wrapper
  obtain rfl : path :: crossed = trail := h.chain
  exact isFailureOf_execution path cause (crossed ++ [outer])

namespace Inclusion
open Directive

variable {C : Type}

namespace Host

variable {host : Host C} {cause : Fault}

/-- The innermost partial wraps the fault, and each further one extends what leaves. -/
theorem issuing_of_wraps (h : host.wraps cause = true) (outer : List Path) (path : Path) :
    (host.issuing ⟨outer ++ [path], cause⟩).IsFailureOf path.toString cause
      ((outer ++ [path]).map Path.toString).reverse := by
  induction outer with
  | nil =>
    have hwrapped : host.leaving path.toString cause = .execution path.toString cause [] := by
      unfold leaving
      split
      · simp [wraps] at h
      · rw [if_pos h]
    show (host.leaving path.toString cause).IsFailureOf _ _ [path.toString]
    rw [hwrapped]
    exact Fault.isFailureOf_execution ..
  | cons first rest ih =>
    have hcross : host.issuing ⟨first :: rest ++ [path], cause⟩ =
        (host.issuing ⟨rest ++ [path], cause⟩).crossing first.toString := by
      show host.leaving first.toString (host.issuing ⟨rest ++ [path], cause⟩) = _
      obtain ⟨crossed, hwrapper⟩ := ih.wrapper
      rw [hwrapper]
      rfl
    rw [hcross, List.cons_append, List.map_cons, List.reverse_cons]
    exact ih.crossing first.toString

theorem wraps_of_passes (hinclusion : cause.isInclusion = false) (hstops : host.stops cause = false) :
    host.wraps cause = false := by
  unfold wraps
  split
  · rfl
  · simp [hinclusion, hstops]

/-- A fault that is neither one of inclusion nor one of the host's runs is the same everywhere. -/
theorem issuing_of_passes (hinclusion : cause.isInclusion = false) (hstops : host.stops cause = false)
    (entered : List Path) : host.issuing ⟨entered, cause⟩ = cause := by
  induction entered with
  | nil => rfl
  | cons first rest ih =>
    have hcross : host.issuing ⟨first :: rest, cause⟩ =
        host.leaving first.toString (host.issuing ⟨rest, cause⟩) := rfl
    rw [hcross, ih]
    unfold leaving
    split
    · simp [Fault.isInclusion] at hinclusion
    · rw [if_neg (by simp [wraps_of_passes hinclusion hstops])]

theorem reports_of_passes (hinclusion : cause.isInclusion = false) (hstops : host.stops cause = false)
    (entered : List Path) : host.reports ⟨entered, cause⟩ = [] := by
  unfold reports
  cases entered.getLast? with
  | none => rfl
  | some path => simp [wraps_of_passes hinclusion hstops]

theorem wraps_of_kind (h : cause.isInclusion = true ∨ host.stops cause = true)
    (hexecution : ∀ source inner crossed, cause ≠ .execution source inner crossed) :
    host.wraps cause = true := by
  unfold wraps
  split
  · next source inner crossed => exact absurd rfl (hexecution source inner crossed)
  · simpa using h

end Host

/-- Whatever a directive includes, what leaves it belongs to the partials that were entered where it stopped
and to the fault that arose there. A fault of inclusion or of the host's runs is wrapped at the innermost
partial, which alone reports it, and crosses the others; any other fault is what leaves. -/
theorem executeWith_failure {host : Host C} (hcalm : host.Calm) (setting : Setting) (depth : Nat)
    (invocation : Invocation) (p : Pass C) :
    let ending := (executeWith host setting (fetch host setting.files) depth invocation).start p
    let failures := Trace.failures (Trace.since p.desk.trace ending.2.desk.trace)
    match stop? host setting depth invocation p with
    | none => (∃ text, ending.1 = .ok text) ∧ failures = []
    | some ⟨entered, cause⟩ =>
      (entered = [] → ending.1 = .error cause ∧ failures = []) ∧
      (cause.isInclusion = false → host.stops cause = false → ending.1 = .error cause ∧ failures = []) ∧
      ((cause.isInclusion = true ∨ host.stops cause = true) →
        (∀ source inner crossed, cause ≠ .execution source inner crossed) →
        ∀ path, entered.getLast? = some path → ∃ fault, ending.1 = .error fault ∧
          fault.IsFailureOf path.toString cause (entered.map Path.toString).reverse ∧
          failures = [failedRecord path.toString cause]) := by
  intro ending failures
  obtain ⟨hfault, hreports⟩ := ends_executeWith hcalm setting depth invocation p
  have hfailures := hreports.since
  cases hstop : stop? host setting depth invocation p with
  | none =>
    rw [hstop] at hfault hfailures
    exact ⟨faultOf?_eq_none.1 hfault, hfailures⟩
  | some stop =>
    obtain ⟨entered, cause⟩ := stop
    rw [hstop] at hfault hfailures
    have hleaves : ending.1 = .error (host.issuing ⟨entered, cause⟩) := faultOf?_eq_some.1 hfault
    have hreported : failures = host.reports ⟨entered, cause⟩ := hfailures
    refine ⟨?_, ?_, ?_⟩
    · rintro rfl
      exact ⟨hleaves, hreported⟩
    · intro hinclusion hstops
      rw [Host.issuing_of_passes hinclusion hstops] at hleaves
      rw [Host.reports_of_passes hinclusion hstops] at hreported
      exact ⟨hleaves, hreported⟩
    · intro hkind hexecution path hpath
      have hwraps := Host.wraps_of_kind hkind hexecution
      obtain ⟨outer, rfl⟩ := List.getLast?_eq_some_iff.1 hpath
      refine ⟨_, hleaves, Host.issuing_of_wraps hwraps outer path, ?_⟩
      simpa [Host.reports, hwraps] using hreported

/-! ### Hosts that compile calmly -/

namespace Clerk

variable (clerk : Clerk)

theorem reports_announced (tag : String) (d : Desk) : Desk.Reports [] d (clerk.announced tag d) := by
  unfold announced
  split
  · split
    · exact .refl d
    · exact .add _ (failure?_record (by simp [Notices.record]))
  · exact .refl d

/-- A clerk reports notices, and no failed partials. -/
theorem calm_prepare (tag : String) (markup : List Char) :
    (clerk.prepare tag markup).Keeps (Desk.Reports []) := by
  intro d
  rw [start_prepare]
  exact clerk.reports_announced tag d

theorem calm_remembered (tag : String) (markup : List Char) :
    (clerk.remembered tag markup).Keeps (Desk.Reports []) := by
  intro d
  rw [start_remembered]
  cases d.memo.lookup (tag, String.ofList markup) with
  | some invocation => exact .refl d
  | none => cases clerk.prepared tag markup <;> exact clerk.reports_announced tag d

end Clerk

end Inclusion

open Inclusion

theorem Template.host_calm (o : Options) (clerk : Clerk) (encoding : String) : (host o clerk encoding).Calm :=
  keeps_compile .refl Desk.Reports.trans clerk.calm_remembered o encoding

theorem Segments.calm_prepareAll (clerk : Clerk) (cuts : List Cut) :
    (prepareAll clerk cuts).Keeps (Desk.Reports []) := by
  induction cuts with
  | nil => exact .pure .refl _
  | cons first rest ih =>
    have hbehind (piece : Piece) : Run.Keeps (Desk.Reports [])
        (prepareAll clerk rest >>= fun more => pure (piece :: more)) :=
      .bind Desk.Reports.trans ih fun _ => .pure .refl _
    cases first with
    | text s => exact hbehind _
    | variable_ name => exact hbehind _
    | directive tag markup =>
      exact .bind Desk.Reports.trans (clerk.calm_prepare _ _) fun invocation => hbehind _

theorem Segments.host_calm (clerk : Clerk) (namedUnset : Bool) : (host clerk namedUnset).Calm := by
  have hparts (text : List Char) (name : String) :
      Run.Keeps (Desk.Reports []) (if refusal.isPrefixOf text then throw (.badSource name)
        else prepareAll clerk (cut text)) := by
    split
    · exact .throw .refl _
    · exact calm_prepareAll clerk _
  intro source name
  cases source with
  | text cs => exact hparts cs name
  | bytes content => exact .bind Desk.Reports.trans (.ofExcept .refl _) fun text => hparts text name

namespace Inclusion
open Directive

/-- A page includes `a.html`, which includes `b.html`, which includes a file that is nowhere. -/
theorem executeWith_failure_nested :
    let host := Template.host .standard ⟨⟨[⟨"include_file", .fixed ["/"], none⟩]⟩, none⟩ "utf-8"
    let including (name : String) : List UInt8 := ("\x7b% include_file " ++ name ++ " %\x7d").toUTF8.toList
    let files : Files := .ofNodes [(["a.html".toList], .file (including "b.html")),
      (["b.html".toList], .file (including "c.html"))]
    let site : Site := ⟨⟨.ofString "/site", ["_includes"], [], "", "utf-8", "\n\n", []⟩⟩
    let invocation : Invocation := ⟨"include_file", .of "a.html".toList, .fixed ["/"]⟩
    let p : Pass Template.Compiled := .fresh .empty [(Template.passName, .pass)]
    let ending := (executeWith host ⟨files, site, none⟩ (fetch host files) 3 invocation).start p
    ∃ fault cause, ending.1 = .error fault ∧ fault.IsFailureOf "/b.html" cause ["/b.html", "/a.html"] ∧
      cause.kind = "IncludeNotFoundError" ∧
      Trace.failures (Trace.since [] ending.2.desk.trace) = [failedRecord "/b.html" cause] := by
  intro host including files site invocation p ending
  have hsummary : (stop? host ⟨files, site, none⟩ 3 invocation p).map
      (fun stop => (stop.entered.map Path.toString, stop.cause.kind, stop.cause.isInclusion)) =
        some (["/a.html", "/b.html"], "IncludeNotFoundError", true) := by
    decide +kernel
  have hcalm : host.Calm := Template.host_calm _ _ _
  have hfailure := executeWith_failure hcalm ⟨files, site, none⟩ 3 invocation p
  obtain ⟨⟨entered, cause⟩, hstop, hparts⟩ := Option.map_eq_some_iff.1 hsummary
  obtain ⟨hentered, hkind, hinclusion⟩ : entered.map Path.toString = ["/a.html", "/b.html"] ∧
      cause.kind = "IncludeNotFoundError" ∧ cause.isInclusion = true := by
    simpa using hparts
  rw [hstop] at hfailure
  have hexecution : ∀ source inner crossed, cause ≠ .execution source inner crossed := by
    rintro source inner crossed rfl
    simp [Fault.kind] at hkind
  have hlast : (entered.map Path.toString).getLast? = some "/b.html" := by rw [hentered]; rfl
  rw [List.getLast?_map] at hlast
  obtain ⟨path, hpath, hb⟩ := Option.map_eq_some_iff.1 hlast
  obtain ⟨fault, hleaves, hfault, hreported⟩ := hfailure.2.2 (.inl hinclusion) hexecution path hpath
  rw [hentered, hb] at hfault
  rw [hb] at hreported
  exact ⟨fault, cause, hleaves, hfault, hkind, hreported⟩

end Inclusion

end Transclusion

import Transclusion.Proofs.Caching
import Transclusion.Proofs.Footprints
import Transclusion.Proofs.Renders
import Transclusion.Proofs.Sources

/-! Arguments that are refused.

Arguments are checked when a source is compiled. Its directives are prepared in the
order in which they are met, and of a well-formed source all of them are met, so the
first one whose arguments are not well formed stops the compiling, whatever the rest
of the source does and whatever would become of the place where it stands
(`start_compile_refused`). A text is then not rendered, and a partial is not kept and
not run (`malformed_refused`). -/
namespace Transclusion

namespace Directive

variable {tag : String} {markup arguments : List Char}

/-- The arguments of markup, if they are not well formed. -/
def refused? (markup : List Char) : Option (List Char) :=
  (Markup.of markup).arguments.filter fun arguments => !isWellFormed arguments

/-- The first of directives whose arguments are refused, with these. -/
def firstRefused? (tags : List (String × List Char)) : Option (String × List Char) :=
  tags.findSome? fun (tag, markup) => (refused? markup).map fun arguments => (tag, arguments)

/-- The fault of refused arguments. -/
def malformed (tag : String) (arguments : List Char) : Fault :=
  .malformedArguments tag (String.ofList arguments) (syntaxExample tag)

theorem refused?_strip (markup : List Char) : refused? (Text.strip markup) = refused? markup := by
  rw [refused?, refused?, Markup.of, Markup.of, Text.strip_strip]

theorem ofMarkup_of_refused (h : refused? markup = some arguments) (strategy : Strategy) :
    Invocation.ofMarkup tag markup strategy = .error (malformed tag arguments) := by
  obtain ⟨harguments, hrefused⟩ := Option.filter_eq_some_iff.1 h
  unfold Invocation.ofMarkup
  simp only [harguments]
  rw [checkArguments, if_neg (by simpa using hrefused)]
  rfl

theorem ofMarkup_of_not_refused (h : refused? markup = none) (strategy : Strategy) :
    ∃ invocation, Invocation.ofMarkup tag markup strategy = .ok invocation := by
  unfold Invocation.ofMarkup
  unfold refused? at h
  simp only
  cases harguments : (Markup.of markup).arguments with
  | none => exact ⟨_, rfl⟩
  | some arguments =>
    rw [harguments] at h
    have hgood : isWellFormed arguments = true := by simpa using h
    show ∃ invocation, Except.map _ (checkArguments tag arguments) = .ok invocation
    rw [checkArguments, if_pos hgood]
    exact ⟨_, rfl⟩

theorem firstRefused?_cons_refused (h : refused? markup = some arguments) (rest : List (String × List Char)) :
    firstRefused? ((tag, markup) :: rest) = some (tag, arguments) := by
  simp [firstRefused?, h]

theorem firstRefused?_cons_accepted (h : refused? markup = none) (rest : List (String × List Char)) :
    firstRefused? ((tag, markup) :: rest) = firstRefused? rest := by
  simp [firstRefused?, h]

theorem firstRefused?_isSome {tags : List (String × List Char)} (h : (tag, markup) ∈ tags)
    (hrefused : (refused? markup).isSome = true) : (firstRefused? tags).isSome = true := by
  rw [firstRefused?, List.isSome_findSome?, List.any_eq_true]
  exact ⟨_, h, by simpa using hrefused⟩

theorem Registry.exists_entry {registry : Registry} (h : tag ∈ registry.names) :
    ∃ entry, registry.entry tag = .ok entry := by
  obtain ⟨entry, hentry, rfl⟩ := List.mem_map.1 h
  unfold Registry.entry Registry.find?
  cases hfind : registry.entries.find? (·.name == entry.name) with
  | none => exact absurd (List.find?_eq_none.1 hfind entry hentry) (by simp)
  | some found => exact ⟨found, rfl⟩

end Directive

open Directive Inclusion

/-! ### Preparing -/

namespace Inclusion.Clerk

variable {clerk : Clerk} {d : Desk} {tag : String} {markup arguments : List Char}

/-- Refused arguments are never remembered, and so they are refused each time. -/
theorem start_remembered_refused (hbacked : clerk.Backed d) (htag : tag ∈ clerk.registry.names)
    (h : refused? markup = some arguments) :
    (clerk.remembered tag markup).start d = (.error (malformed tag arguments), clerk.announced tag d) := by
  obtain ⟨entry, hentry⟩ := Registry.exists_entry htag
  have hprepared : clerk.prepared tag markup = .error (malformed tag arguments) := by
    rw [prepared, hentry]
    exact ofMarkup_of_refused h entry.strategy
  rw [start_remembered]
  cases hmemo : d.memo.lookup (tag, String.ofList markup) with
  | some invocation =>
    have hgood := hbacked.prepared hmemo
    rw [hprepared] at hgood
    cases hgood
  | none => simp only [hprepared]

theorem start_remembered_accepted (htag : tag ∈ clerk.registry.names) (h : refused? markup = none) :
    ∃ invocation e, (clerk.remembered tag markup).start d = (.ok invocation, e) := by
  obtain ⟨entry, hentry⟩ := Registry.exists_entry htag
  obtain ⟨invocation, hprepared⟩ : ∃ invocation, clerk.prepared tag markup = .ok invocation := by
    rw [prepared, hentry]
    exact ofMarkup_of_not_refused h entry.strategy
  rw [start_remembered]
  cases d.memo.lookup (tag, String.ofList markup) with
  | some remembered => exact ⟨remembered, d, rfl⟩
  | none =>
    simp only [hprepared]
    exact ⟨_, _, rfl⟩

end Inclusion.Clerk

namespace Template

variable {clerk : Clerk} {d : Desk} {o : Options} {tag : String} {arguments source : List Char}
  {pieces : List Piece}

/-- Preparing directives stops at the first whose arguments are refused. -/
theorem start_rememberedAll_refused {met : List MetDirective} (hbacked : clerk.Backed d)
    (hmet : ∀ m ∈ met, m.1 ∈ clerk.registry.names) (h : firstRefused? met = some (tag, arguments)) :
    ∃ e, (rememberedAll clerk met).start d = (.error (malformed tag arguments), e) ∧ d.Recorded e := by
  induction met generalizing d with
  | nil => cases h
  | cons m rest ih =>
    obtain ⟨name, markup⟩ := m
    have hname : name ∈ clerk.registry.names := hmet (name, markup) (List.mem_cons_self ..)
    cases hrefused : refused? markup with
    | some refused =>
      rw [firstRefused?_cons_refused hrefused] at h
      obtain ⟨rfl, rfl⟩ := Prod.mk.inj (Option.some.inj h)
      exact ⟨_, Run.start_bind_error (Clerk.start_remembered_refused hbacked hname hrefused) _,
        (clerk.settled_announced name d).1⟩
    | none =>
      rw [firstRefused?_cons_accepted hrefused] at h
      obtain ⟨invocation, e, he⟩ := Clerk.start_remembered_accepted (d := d) hname hrefused
      have hkept := (clerk.settled_remembered name markup d).2.1
      have hstill : clerk.Backed ((clerk.remembered name markup).start d).2 := Clerk.keeps_backed name markup d hbacked
      rw [he] at hkept hstill
      obtain ⟨f, hf, hrecorded⟩ := ih hstill (fun m hm => hmet m (List.mem_cons_of_mem _ hm)) h
      refine ⟨f, ?_, hkept.trans hrecorded⟩
      rw [rememberedAll, Run.start_bind_ok he]
      exact Run.start_bind_error hf _

/-- A source stops compiling at the first of its directives whose arguments are refused. -/
theorem start_compileText_refused {directives : List MetDirective} (hbacked : clerk.Backed d)
    (hmet : (readSource o clerk.registry.names source).2 = directives)
    (hnames : ∀ m ∈ directives, m.1 ∈ clerk.registry.names)
    (h : firstRefused? directives = some (tag, arguments)) :
    ∃ e, (∀ name, (compileText o clerk name source).start d = (.error (malformed tag arguments), e)) ∧
      d.Recorded e := by
  subst hmet
  obtain ⟨e, he, hrecorded⟩ := start_rememberedAll_refused hbacked hnames h
  exact ⟨e, fun name => Run.start_bind_error he _, hrecorded⟩

/-- So does a source that is given as bytes, if these can be decoded. -/
theorem start_compile_refused (encoding : String) {directives : List MetDirective} (hbacked : clerk.Backed d)
    (hmet : (readSource o clerk.registry.names source).2 = directives)
    (hnames : ∀ m ∈ directives, m.1 ∈ clerk.registry.names)
    (h : firstRefused? directives = some (tag, arguments)) {given : Source}
    (hgiven : given = .text source ∨
      ∃ bytes, given = .bytes bytes ∧ decodeBytes encoding bytes o.library.codecs = .ok source) :
    ∃ e, (∀ name, ((host o clerk encoding).compile given name).start d = (.error (malformed tag arguments), e)) ∧
      d.Recorded e := by
  obtain ⟨e, he, hrecorded⟩ := start_compileText_refused hbacked hmet hnames h
  refine ⟨e, fun name => ?_, hrecorded⟩
  rcases hgiven with rfl | ⟨bytes, rfl, hbytes⟩
  · exact he (some name)
  · show (Run.ofExcept (decodeBytes encoding bytes o.library.codecs) >>= fun text =>
      compileText o clerk (some name) text).start d = _
    rw [hbytes]
    exact he (some name)

end Template

/-! ### Texts and partials -/

namespace Inclusion

variable {C : Type}

/-- What a host owes so that what it refuses to compile is never run: references bind nothing, desks stay as desks
are to be, compiling comes to the same on desks that are alike, and does nothing but that. -/
structure Host.Firm (host : Host C) (Holds : Desk → Prop) (same : Desk → Desk → Prop) : Prop where
  reads : host.ReferencesRead
  lasting : Lasting host (fun _ => True) fun d e => Holds d → Holds e
  steady : host.Steady same
  quiet : host.Quiet

/-- An invocation, executed in a pass, comes to a partial with these bytes at a path; `q` is the pass behind its
reference. -/
structure Host.ComesTo (host : Host C) (bytes : List UInt8) (setting : Setting) (depth : Nat)
    (invocation : Invocation) (p q : Pass C) (reference : String) (path : Path) : Prop where
  evaluated : (effectiveReference host (executeWith host setting (fetch host setting.files) depth)
    invocation).start (p.add (.enter invocation.tag)) = (.ok reference, q)
  checked : checkReference invocation.tag reference = .ok ()
  found : found setting.files (invocation.candidates setting reference) = .ok (some path)
  read : setting.files.read path = .ok bytes

/-- A partial with these bytes is refused with a fault wherever it is included: the fault is reported for its path,
its path has no entry in the cache and gets none, and behind the reference the directive asks for the partial and
reads it, and starts nothing. -/
def Host.RefusesPartial (host : Host C) (Holds : Desk → Prop) (same : Desk → Desk → Prop) (bytes : List UInt8)
    (cause : Fault) : Prop :=
  ∀ (setting : Setting) (depth : Nat) (invocation : Invocation) (p q : Pass C) (reference : String) (path : Path),
    Holds p.desk → p.cache.Sound host same setting.files p.desk →
    host.ComesTo bytes setting depth invocation p q reference path →
    ∃ desk, (executeWith host setting (fetch host setting.files) (depth + 1) invocation).start p =
        (.error (.compilation path.toString cause), Pass.add ⟨q.scope, ⟨q.cache.miss, desk⟩⟩ .leave) ∧
      q.cache.find? path.toString = none ∧
      q.desk.Touches ⟨1, lookedUp setting.files (invocation.candidates setting reference), [path], []⟩ desk

section
variable {host : Host C} {Holds : Desk → Prop} {same : Desk → Desk → Prop} {cause : Fault} {bytes : List UInt8}

/-- What does not compile cannot be fetched anew. -/
theorem start_fetchAnew_refused (hcause : cause.isInclusion = true) {files : Files} {path : Path}
    (hread : files.read path = .ok bytes) {d e : Desk}
    (h : (host.compile (.bytes bytes) path.toString).start ((d.add (.read path)).add (.compile path.toString)) =
      (.error cause, e)) :
    (fetchAnew host files path).start d = (.error (.compilation path.toString cause), e) := by
  rw [start_fetchAnew, hread]
  simp only [h, hcause, Bool.true_or, if_true]

namespace Host.Firm

variable (hfirm : host.Firm Holds same)
include hfirm

/-- Behind a reference the desk is as it is to be, and the cache sound. -/
theorem kept_effectiveReference {setting : Setting} {depth : Nat} {invocation : Invocation} {p q : Pass C}
    {reference : String} (hholds : Holds p.desk) (hsound : p.cache.Sound host same setting.files p.desk)
    (h : (effectiveReference host (executeWith host setting (fetch host setting.files) depth) invocation).start
      (p.add (.enter invocation.tag)) = (.ok reference, q)) :
    Holds q.desk ∧ q.cache.Sound host same setting.files q.desk := by
  constructor
  · have hinclusion (invocation : Invocation) :=
      (around_executeWith setting hfirm.reads hfirm.lasting depth invocation).mono fun _ _ => Pass.Around.within
    have hkept := (within_effectiveReference hfirm.lasting hinclusion (fun _ => trivial) invocation
      (p.add (.enter invocation.tag))).desk
    rw [h] at hkept
    exact hkept (hfirm.lasting.add _ trivial hholds)
  · -- The pass is beside itself at first, and beside one that compiles anew behind the reference.
    have htwin : Pass.Twin host same setting.files (p.add (.enter invocation.tag)) (p.add (.enter invocation.tag)) :=
      ⟨rfl, hfirm.steady.lasting.refl _, hsound.along hfirm.steady (hfirm.steady.lasting.add _ trivial)⟩
    have hbehind := (lockstep_effectiveReference (twin_lockstep hfirm.steady setting)
      (twin_executeWith hfirm.steady setting depth) invocation _ _ htwin).2
    rw [h] at hbehind
    exact hbehind.store.sound.along hfirm.steady (hfirm.steady.symm hbehind.store.desk)

/-- A partial that does not compile on any desk as desks are to be is refused wherever it is included. -/
theorem refusesPartial (hcause : cause.isInclusion = true)
    (h : ∀ desk, Holds desk →
      ∃ after, ∀ name, (host.compile (.bytes bytes) name).start desk = (.error cause, after)) :
    host.RefusesPartial Holds same bytes cause := by
  intro setting depth invocation p q reference path hholds hsound hcomes
  obtain ⟨hholds, hsound⟩ := hfirm.kept_effectiveReference hholds hsound hcomes.evaluated
  have hanew {d : Desk} (hd : Holds d) :
      ∃ e, (fetchAnew host setting.files path).start d = (.error (.compilation path.toString cause), e) := by
    obtain ⟨e, he⟩ := h ((d.add (.read path)).add (.compile path.toString))
      (hfirm.lasting.add _ trivial (hfirm.lasting.add _ trivial hd))
    exact ⟨e, start_fetchAnew_refused hcause hcomes.read (he _)⟩
  have hnone : q.cache.find? path.toString = none := by
    refine Option.eq_none_iff_forall_ne_some.2 fun compiled hfound => ?_
    obtain ⟨e, he⟩ := hanew hholds
    have hgood := hsound path compiled hfound q.desk (hfirm.steady.lasting.refl _)
    rw [he] at hgood
    cases hgood
  have hsearched : Holds (q.searched setting invocation reference).desk := by
    have hkept := keeps_findPartial hfirm.lasting setting invocation reference (fun _ _ => trivial)
      (fun _ => trivial) (fun _ _ => trivial) q.desk
    rw [start_findPartial, hcomes.checked, hcomes.found] at hkept
    exact hkept hholds
  obtain ⟨e, he⟩ := hanew hsearched
  have hfetch : (fetch host setting.files path).start (q.searched setting invocation reference).store =
      (.error (.compilation path.toString cause), ⟨q.cache.miss, e⟩) := by
    rw [start_fetch_miss (s := (q.searched setting invocation reference).store) hnone,
      show (q.searched setting invocation reference).store.desk = (q.searched setting invocation reference).desk
        from rfl, he]
    rfl
  have htouches := (touches_searched q setting invocation reference).append
    (touches_fetch_error hfirm.quiet hfetch).2
  refine ⟨e, ?_, hnone, htouches.of_eq (by simp [Footprint.append_def])⟩
  rw [start_executeWith]
  have hstages := start_unfetched hcomes.evaluated hcomes.checked hcomes.found hfetch invocation.markup.arguments
  rw [show invocation.withArguments invocation.markup.arguments = invocation from rfl] at hstages
  rw [hstages]

end Host.Firm

end

end Inclusion

namespace Renderer

variable (r : Renderer) (source : List Char) (cause : Fault)

/-- A text is refused with a fault before anything of a pass is done: nothing is looked up, read or started, and
only records are written. -/
def RefusesText : Prop :=
  ∀ desk, r.clerk.Backed desk → ∃ after, desk.Recorded after ∧
    (∀ name, (r.host.compile (.text source) name).start desk = (.error cause, after)) ∧
    ∀ files bindings document name,
      (r.renderText files source bindings document name).start desk = (.error cause, after)

/-- An invocation, executed in a pass, comes to a partial with this source at a path; `q` is the pass behind its
reference. -/
structure ComesTo (setting : Setting) (depth : Nat) (invocation : Invocation) (p q : Pass Template.Compiled)
    (reference : String) (path : Path) : Prop where
  evaluated : (effectiveReference r.host (executeWith r.host setting (fetch r.host setting.files) depth)
    invocation).start (p.add (.enter invocation.tag)) = (.ok reference, q)
  checked : checkReference invocation.tag reference = .ok ()
  found : Inclusion.found setting.files (invocation.candidates setting reference) = .ok (some path)
  decoded : ∃ bytes, setting.files.read path = .ok bytes ∧
    decodeBytes r.site.config.encoding bytes r.options.library.codecs = .ok source

/-- A partial is refused with a fault wherever it is included: the fault is reported for its path, its path has no
entry in the cache and gets none, and behind the reference the directive asks for the partial and reads it, and
starts nothing. -/
def RefusesPartial : Prop :=
  ∀ (setting : Setting) (depth : Nat) (invocation : Invocation) (p q : Pass Template.Compiled) (reference : String)
    (path : Path), r.clerk.Backed p.desk → p.cache.Sound r.host r.clerk.SameAnswers setting.files p.desk →
    r.ComesTo source setting depth invocation p q reference path →
    ∃ desk, (executeWith r.host setting (fetch r.host setting.files) (depth + 1) invocation).start p =
        (.error (.compilation path.toString cause), Pass.add ⟨q.scope, ⟨q.cache.miss, desk⟩⟩ .leave) ∧
      q.cache.find? path.toString = none ∧
      q.desk.Touches ⟨1, lookedUp setting.files (invocation.candidates setting reference), [path], []⟩ desk

variable {r source cause}

/-- What does not compile is not rendered. -/
theorem start_renderText_refused {desk after : Desk} {name : String}
    (h : (r.host.compile (.text source) name).start desk = (.error cause, after)) (files : Files) (bindings : Bindings)
    (document : Option Document) :
    (r.renderText files source bindings document name).start desk = (.error cause, after) := by
  have hcompile : (Pass.onDesk (r.host.compile (.text source) name)).start (.fresh desk []) =
      (.error cause, (⟨.ofBindings [], ⟨.empty, after⟩⟩ : Pass Template.Compiled)) := by
    rw [Pass.start_onDesk, show (Pass.fresh desk [] : Pass Template.Compiled).desk = desk from rfl, h]
    rfl
  have hrun : (r.renderIn ⟨files, r.site, document⟩ source bindings name).start (.fresh desk []) =
      (.error cause, ⟨.ofBindings [], ⟨.empty, after⟩⟩) := Run.start_bind_error hcompile _
  unfold renderText inFreshPass
  rw [Run.start_zoom, hrun]
  rfl

/-- The host of templates owes its clerk backed desks. -/
theorem firm_host (r : Renderer) : r.host.Firm r.clerk.Backed r.clerk.SameAnswers where
  reads := Template.host_referencesRead r.clerk r.options r.site.config.encoding
  lasting := r.lasting_backed
  steady := (Template.host_plain r.options r.clerk r.site.config.encoding).steady
  quiet := Template.host_quiet _ _ _

/-- A partial that does not compile on any backed desk is refused wherever it is included. -/
theorem refusesPartial_of_compile (hcause : cause.isInclusion = true)
    (h : ∀ desk bytes, r.clerk.Backed desk →
      decodeBytes r.site.config.encoding bytes r.options.library.codecs = .ok source →
      ∃ after, ∀ name, (r.host.compile (.bytes bytes) name).start desk = (.error cause, after)) :
    r.RefusesPartial source cause := by
  intro setting depth invocation p q reference path hbacked hsound hcomes
  obtain ⟨bytes, hread, hdecoded⟩ := hcomes.decoded
  exact r.firm_host.refusesPartial hcause (fun desk hdesk => h desk bytes hdesk hdecoded) setting depth invocation p q
    reference path hbacked hsound ⟨hcomes.evaluated, hcomes.checked, hcomes.found, hread⟩

/-- Arguments that are not well formed are refused early, wherever they stand. Of a source that is well formed,
whatever its directives say, all directives are met in the order of the source, if the language has no tag of its own
for the names that stand there; so there is a first one whose arguments are refused if those of any of its tags are.
With its fault the source is refused as a text before anything else is done, and as a partial wherever it is
included. -/
theorem malformed_refused (r : Renderer) (ho : r.options.delimiters = .standard) {source : List Char}
    {pieces : List Template.Piece} (hfree : ∀ n ∈ r.registry.names, Template.Uses pieces n → Template.IsFree n)
    (hsource : Template.WellFormed r.options r.registry.names source pieces) :
    let directives := (Template.readSource r.options r.registry.names source).2
    Template.Lists r.registry.names pieces directives ∧
    (∀ t, .directive t ∈ pieces → (refused? t.markup).isSome = true → (firstRefused? directives).isSome = true) ∧
    ∀ tag arguments, firstRefused? directives = some (tag, arguments) →
      r.RefusesText source (malformed tag arguments) ∧ r.RefusesPartial source (malformed tag arguments) := by
  intro directives
  have hlists := hsource.lists ho hfree
  have hnames : ∀ m ∈ directives, m.1 ∈ r.clerk.registry.names := fun m hm => hlists.name_mem hm
  refine ⟨hlists, fun t ht hrefused => ?_, fun tag arguments hfirst => ⟨fun desk hbacked => ?_, ?_⟩⟩
  · exact firstRefused?_isSome (hlists.mem ht) (by rwa [refused?_strip])
  · obtain ⟨after, hcompile, hrecorded⟩ :=
      Template.start_compile_refused r.site.config.encoding hbacked rfl hnames hfirst (.inl rfl)
    exact ⟨after, hrecorded, hcompile, fun files bindings document name =>
      start_renderText_refused (hcompile name) files bindings document⟩
  · refine refusesPartial_of_compile rfl fun desk bytes hbacked hdecoded => ?_
    obtain ⟨after, hcompile, -⟩ :=
      Template.start_compile_refused _ hbacked rfl hnames hfirst (.inr ⟨bytes, rfl, hdecoded⟩)
    exact ⟨after, hcompile⟩

/-- A page with a directive in a branch that is never taken. The value of its argument is left open. -/
def untaken : List Char :=
  "\x7b% if false %\x7d\x7b% include_file nav.html title=\"x %\x7d\x7b% endif %\x7d".toList

def untakenTag : Template.TagText :=
  ⟨"\x7b%".toList, [' '], "include_file".toList, " nav.html title=\"x ".toList, "%\x7d".toList⟩

def untakenPieces : List Template.Piece :=
  [.data [], .ordinary "\x7b% if false %\x7d".toList, .data [], .directive untakenTag, .data [],
    .ordinary "\x7b% endif %\x7d".toList, .data []]

theorem tiles_untaken : Template.Tiles .standard ["include_file".toList] untaken untakenPieces := by
  have hopen : Template.firstFound? (Template.opening? .standard) untaken = some ([], .block, [], "\x7b%".toList,
      " if false %\x7d\x7b% include_file nav.html title=\"x %\x7d\x7b% endif %\x7d".toList) := by decide +kernel
  have hleave : Template.Cursor.leave? .standard 0 9 false ⟨.block, [], 1,
      " if false %\x7d\x7b% include_file nav.html title=\"x %\x7d\x7b% endif %\x7d".toList⟩ =
        some "\x7b% include_file nav.html title=\"x %\x7d\x7b% endif %\x7d".toList := by decide +kernel
  have hinner : Template.firstFound? (Template.opening? .standard)
        "\x7b% include_file nav.html title=\"x %\x7d\x7b% endif %\x7d".toList =
      some ([], .block, [], "\x7b%".toList, " include_file nav.html title=\"x %\x7d\x7b% endif %\x7d".toList) ∧
      Template.tag? .standard ["include_file".toList]
        "\x7b% include_file nav.html title=\"x %\x7d\x7b% endif %\x7d".toList =
          some (untakenTag, "\x7b% endif %\x7d".toList) := by decide +kernel
  have hlast : Template.firstFound? (Template.opening? .standard) "\x7b% endif %\x7d".toList =
        some ([], .block, [], "\x7b%".toList, " endif %\x7d".toList) ∧
      Template.Cursor.leave? .standard 0 9 false ⟨.block, [], 1, " endif %\x7d".toList⟩ = some [] := by
    decide +kernel
  have hplain {cs : List Char} (h : (Template.tag? .standard ["include_file".toList] cs).isSome = false) :
      ¬ Template.IsNamed Template.Options.standard.delimiters ["include_file".toList] cs := by
    show ¬ Template.IsNamed .standard ["include_file".toList] cs
    rw [← Template.tag?_isSome_iff, h]
    simp
  exact .next hopen (.block (hplain (by decide +kernel)) hleave) (.next hinner.1 (.directive hinner.2)
    (.next hlast.1 (.block (hplain (by decide +kernel)) hlast.2) (.data (by decide +kernel))))

theorem wellFormed_untaken : Template.WellFormed .standard ["include_file"] untaken untakenPieces := by
  have hother (name : String) (hname : Template.IsWord name.toList) (hne : name ≠ "raw") {cs : List Char}
      (h : Template.BeginsBlock name.toList cs) : ¬ (Template.Piece.ordinary cs).IsGlued "raw" :=
    fun hraw => hne (String.toList_injective (h.unique hname.isRun Template.isWord_raw.isRun hraw))
  refine ⟨tiles_untaken, by decide +kernel, fun piece hpiece => ?_, Result.exists_of_isOk (by decide +kernel)⟩
  simp only [untakenPieces, List.mem_cons, List.not_mem_nil, or_false] at hpiece
  -- Only the two blocks of the choice could be glued to a word.
  rcases hpiece with rfl | rfl | rfl | rfl | rfl | rfl | rfl
  · exact id
  · exact hother "if" (by decide +kernel) (by decide)
      ⟨[], by simp, [' '], ' ', "false %\x7d".toList, List.forall_mem_singleton.2 (by decide), by decide, rfl⟩
  · exact id
  · exact id
  · exact id
  · exact hother "endif" (by decide +kernel) (by decide)
      ⟨[], by simp, [' '], ' ', "%\x7d".toList, List.forall_mem_singleton.2 (by decide), by decide, rfl⟩
  · exact id

/-- A quote that is left open is refused in a branch that is never taken. -/
theorem malformed_refused_branch :
    let site : Site := ⟨⟨.ofString "/site", ["_includes"], [], "", "utf-8", "\n\n", []⟩⟩
    let r : Renderer := ⟨site, ⟨[⟨"include_file", .includeRoots, none⟩]⟩, .standard⟩
    let source := "\x7b% if false %\x7d\x7b% include_file nav.html title=\"x %\x7d\x7b% endif %\x7d".toList
    let files : Files := .ofNodes [(["page.html".toList], .file (source.map fun c => UInt8.ofNat c.toNat))]
    let invocation : Invocation := ⟨"include_file", .of "page.html".toList, .fixed ["/"]⟩
    let p : Pass Template.Compiled := .fresh .empty []
    let cause := malformed "include_file" "title=\"x".toList
    ((r.renderText files source [] none "page").start .empty).1 = .error cause ∧
      ((executeWith r.host ⟨files, site, none⟩ (fetch r.host files) 1 invocation).start p).1 =
        .error (.compilation "/page.html" cause) := by
  intro site r source files invocation p cause
  have hsource : Template.WellFormed r.options r.registry.names source untakenPieces := wellFormed_untaken
  have hfree : ∀ n ∈ r.registry.names, Template.IsFree n := by decide +kernel
  obtain ⟨-, -, hrefused⟩ := malformed_refused r rfl (fun n hn _ => hfree n hn) hsource
  obtain ⟨htext, hpartial⟩ := hrefused "include_file" "title=\"x".toList (by decide +kernel)
  obtain ⟨after, -, -, hrender⟩ := htext .empty (Clerk.backed_empty _)
  have hcomes : r.ComesTo source ⟨files, site, none⟩ 0 invocation p (p.add (.enter "include_file")) "page.html"
      (.ofString "/page.html") := by
    have hplain : invocation.markup.isTemplated = false := by decide +kernel
    have hreference : String.ofList invocation.markup.reference = "page.html" := by decide +kernel
    have hdecoded : decodeBytes "utf-8" (source.map fun c => UInt8.ofNat c.toNat) = .ok source :=
      Result.eq_ok_of_toOption (by decide +kernel)
    refine ⟨?_, rfl, rfl, source.map fun c => UInt8.ofNat c.toNat, by decide +kernel, hdecoded⟩
    unfold effectiveReference
    rw [hplain, hreference]
    rfl
  obtain ⟨desk, hexecute, -⟩ := hpartial ⟨files, site, none⟩ 0 invocation p _ _ _ (Clerk.backed_empty _)
    (Cache.sound_empty _ _ _ _) hcomes
  exact ⟨congrArg Prod.fst (hrender files [] none "page"), congrArg Prod.fst hexecute⟩

end Renderer

end Transclusion

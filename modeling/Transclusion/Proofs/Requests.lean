import Transclusion.Proofs.Registrations

/-! Requests one after another.

What a registry has come to is told by what it was asked for. Whatever a request is and
however it ends, it does one of two things (`serve_cases`): it adds entries under names that
are not there, behind those that are, or it rewords the notice of a name that is there. So
names stay different and only ever join at the end, and a list of what requests have done
accounts for the registry (`Accounts`): a name has the strategy that it was given first and
the notice that it was given last. A refused request has done nothing, unless it was for the
built-in names and had registered one before it came to one that was taken. -/
namespace Transclusion.Directive.Registry

variable {r : Registry} {name notice : String} {entry : Entry}

/-! ### What requests do -/

/-- Something done to a registry. -/
inductive Act where
  | registered (entry : Entry)
  | noticed (name notice : String)

/-- The strategy that an act gives a name, if it gives it one. -/
def Act.strategy? (name : String) : Act → Option Strategy
  | registered entry => if entry.name = name then some entry.strategy else none
  | noticed _ _ => none

/-- The notice that an act gives a name, if it says anything of that; a name may be registered without. -/
def Act.notice? (name : String) : Act → Option (Option String)
  | registered entry => if entry.name = name then some entry.deprecation else none
  | noticed other notice => if other = name then some (some notice) else none

/-- A request to a registry. -/
structure Exchange where
  before : Registry
  request : Request

namespace Exchange

def reply (e : Exchange) : Reply := e.before.serve e.request

def after (e : Exchange) : Registry := e.reply.registry

/-- What a request has done. Of the built-in names, those have been registered that were not there and now
are, whether or not the request was refused at a later one. -/
def acts (e : Exchange) : List Act :=
  match e.request, e.reply.outcome with
  | .register name strategy deprecation, .ok _ => [.registered ⟨name, strategy, deprecation⟩]
  | .discourage name notice, .ok _ => [.noticed name notice]
  | .builtins _, _ =>
    (builtins.filter fun n => n.1 ∉ e.before.names ∧ n.1 ∈ e.after.names).map (.registered <| unnoticed ·)
  | _, _ => []

end Exchange

/-- Requests, each to the registry that the ones before it have left. -/
def history (r : Registry) : List Request → List Exchange
  | [] => []
  | request :: rest => ⟨r, request⟩ :: history (r.serve request).registry rest

/-- The registry that requests leave. -/
def afterAll (r : Registry) (requests : List Request) : Registry :=
  requests.foldl (fun r request => (r.serve request).registry) r

/-- The registry with entries behind its own. -/
def joined (r : Registry) (added : List Entry) : Registry := ⟨r.entries ++ added⟩

/-- The registry with the notice of a name in other words. -/
def reworded (r : Registry) (name notice : String) : Registry :=
  ⟨r.entries.map fun e => if e.name = name then { e with deprecation := some notice } else e⟩

theorem joined_nil (r : Registry) : r.joined [] = r := by
  rw [joined, List.append_nil]

theorem names_joined (r : Registry) (added : List Entry) :
    (r.joined added).names = r.names ++ added.map Entry.name := by
  rw [joined, Registry.names, List.map_append, ← Registry.names]

theorem register_of_not_mem (h : name ∉ r.names) (strategy : Strategy) (deprecation : Option String) :
    r.register name strategy deprecation = .ok (r.joined [⟨name, strategy, deprecation⟩]) := by
  rw [register, if_neg (mt has_iff.1 h)]
  rfl

theorem register_of_mem (h : name ∈ r.names) (strategy : Strategy) (deprecation : Option String) :
    r.register name strategy deprecation = .error (.duplicateDirective name) := by
  rw [register, if_pos (has_iff.2 h)]

theorem discourage_of_mem (h : name ∈ r.names) (notice : String) :
    r.discourage name notice = .ok (r.reworded name notice) := by
  rw [discourage, if_pos (has_iff.2 h)]
  rfl

theorem discourage_of_not_mem (h : name ∉ r.names) (notice : String) :
    r.discourage name notice = .error (.unknownDirective name r.names) := by
  rw [discourage, if_neg (mt has_iff.1 h)]

/-- A request has added entries of fresh names, perhaps none, or has reworded one notice. -/
inductive Does (r : Registry) : List Act → Registry → Prop
  | adds {added : List Entry} : (∀ entry ∈ added, entry.name ∉ r.names) → (added.map Entry.name).Nodup →
      Does r (added.map .registered) (r.joined added)
  | rewords {name notice : String} : name ∈ r.names → Does r [.noticed name notice] (r.reworded name notice)

theorem Does.nothing (r : Registry) : Does r [] r := by
  have h : Does r (([] : List Entry).map .registered) (r.joined []) := .adds (by simp) .nil
  rwa [joined_nil] at h

/-- The built-in names that have been registered are found by looking at the names before and after. -/
theorem does_builtins {names : List (String × Strategy)} {r' : Registry} (hregistry : r' = r.extended names)
    (hfresh : ∀ n ∈ names, n.1 ∉ r.names) (hnames : (names.map Prod.fst).Nodup)
    (hfilter : (builtins.filter fun n => n.1 ∉ r.names ∧ n.1 ∈ r'.names) = names) :
    Does r ((builtins.filter fun n => n.1 ∉ r.names ∧ n.1 ∈ r'.names).map (.registered <| unnoticed ·)) r' := by
  have hadded : Does r ((names.map unnoticed).map .registered) (r.joined (names.map unnoticed)) := by
    refine .adds (fun entry hentry => ?_) (by rwa [List.map_map])
    obtain ⟨n, hn, rfl⟩ := List.mem_map.1 hentry
    exact hfresh n hn
  rw [hfilter, hregistry]
  rwa [List.map_map] at hadded

theorem serve_cases (r : Registry) (request : Request) :
    Does r (Exchange.acts ⟨r, request⟩) (r.serve request).registry := by
  cases request with
  | has name => exact .nothing r
  | entry name => exact .nothing r
  | strategy name => exact .nothing r
  | deprecation name => exact .nothing r
  | documentation => exact .nothing r
  | register name strategy deprecation =>
    by_cases htaken : name ∈ r.names
    · simp only [Exchange.acts, Exchange.reply, serve, register_of_mem htaken, change]
      exact .nothing r
    · simp only [Exchange.acts, Exchange.reply, serve, register_of_not_mem htaken, change]
      have hfresh : ∀ entry ∈ [(⟨name, strategy, deprecation⟩ : Entry)], entry.name ∉ r.names := by
        simpa using htaken
      exact .adds hfresh (List.pairwise_singleton _ _)
  | discourage name notice =>
    by_cases hthere : name ∈ r.names
    · simp only [Exchange.acts, Exchange.reply, serve, discourage_of_mem hthere, change]
      exact .rewords hthere
    · simp only [Exchange.acts, Exchange.reply, serve, discourage_of_not_mem hthere, change]
      exact .nothing r
  | builtins skipExisting =>
    show Does r ((builtins.filter fun n => n.1 ∉ r.names ∧ n.1 ∈ (r.registerBuiltins skipExisting).registry.names).map
      (.registered <| unnoticed ·)) (r.registerBuiltins skipExisting).registry
    obtain ⟨-, hregistry, -⟩ | ⟨-, -, -, hregistry⟩ | ⟨-, hfile, hrelative, -, hregistry⟩ :=
      registerBuiltins_cases r skipExisting
    · refine does_builtins hregistry (fun n hn => of_decide_eq_true (List.mem_filter.1 hn).2)
        (nodup_builtins.sublist (List.filter_sublist.map _)) (List.filter_congr fun n hn => ?_)
      rw [hregistry]
      simp only [mem_names_completed r n hn, and_true]
    · have hnone : (builtins.filter fun n => n.1 ∉ r.names ∧ n.1 ∈ r.names) = [] :=
        List.filter_eq_nil_iff.2 fun n _ h => (of_decide_eq_true h).1 (of_decide_eq_true h).2
      rw [hregistry, hnone]
      exact .nothing r
    · refine does_builtins hregistry (by simpa using hfile) (List.pairwise_singleton _ _) ?_
      rw [hregistry, names_extended]
      simp [builtins, hfile, hrelative]

/-! ### What accounts for a registry -/

/-- The strategies that acts have given a name, the first one first. -/
def strategiesOf (name : String) (acts : List Act) : List Strategy := acts.filterMap (Act.strategy? name)

/-- The notices that acts have given a name, the last one last. -/
def noticesOf (name : String) (acts : List Act) : List (Option String) := acts.filterMap (Act.notice? name)

/-- Acts account for a registry: its names differ, and each has the strategy that it was given first and the
notice that it was given last. -/
structure Accounts (acts : List Act) (r : Registry) : Prop where
  nodup : r.names.Nodup
  strategy (name : String) : (r.find? name).map Entry.strategy = (strategiesOf name acts).head?
  notice (name : String) : (r.find? name).map Entry.deprecation = (noticesOf name acts).getLast?

theorem accounts_empty : Accounts [] empty := ⟨.nil, fun _ => rfl, fun _ => rfl⟩

theorem find?_eq_none_iff : r.find? name = none ↔ name ∉ r.names := by
  rw [← has_iff, has, Bool.not_eq_true, Option.isSome_eq_false_iff, Option.isNone_iff_eq_none]

theorem find?_joined (r : Registry) (entry : Entry) (name : String) :
    (r.joined [entry]).find? name = (r.find? name).or (if entry.name = name then some entry else none) := by
  rw [joined, find?, List.find?_append, List.find?_singleton]
  simp only [beq_iff_eq]
  rfl

theorem find?_reworded (r : Registry) (name notice other : String) :
    (r.reworded name notice).find? other =
      (r.find? other).map fun e => if e.name = name then { e with deprecation := some notice } else e := by
  rw [reworded, find?, List.find?_map, find?]
  congr 2
  funext e
  simp only [Function.comp]
  split <;> rfl

namespace Accounts

variable {acts : List Act}

theorem register (h : Accounts acts r) (hfresh : entry.name ∉ r.names) :
    Accounts (acts ++ [.registered entry]) (r.joined [entry]) where
  nodup := by
    rw [names_joined, List.nodup_append]
    refine ⟨h.nodup, List.pairwise_singleton _ _, fun other hother last hlast heq => hfresh ?_⟩
    rw [List.map_singleton, List.mem_singleton] at hlast
    rwa [heq, hlast] at hother
  strategy name := by
    rw [find?_joined, Option.map_or, h.strategy, strategiesOf, strategiesOf, List.filterMap_append, List.head?_append]
    by_cases hname : entry.name = name <;> simp [Act.strategy?, hname]
  notice name := by
    rw [find?_joined, Option.map_or, h.notice, noticesOf, noticesOf, List.filterMap_append, List.getLast?_append]
    by_cases hname : entry.name = name
    · -- The name is fresh, so that nothing has been said of it before.
      have hnone := h.notice name
      rw [find?_eq_none_iff.2 (hname ▸ hfresh)] at hnone
      rw [noticesOf] at hnone
      simp [Act.notice?, hname, ← hnone]
    · simp [Act.notice?, hname]

theorem register_all {added : List Entry} (h : Accounts acts r) (hfresh : ∀ entry ∈ added, entry.name ∉ r.names)
    (hadded : (added.map Entry.name).Nodup) : Accounts (acts ++ added.map .registered) (r.joined added) := by
  induction added generalizing acts r with
  | nil => simpa [joined_nil] using h
  | cons entry rest ih =>
    rw [List.map_cons, List.nodup_cons] at hadded
    have hrest : ∀ other ∈ rest, other.name ∉ (r.joined [entry]).names := by
      intro other hother
      rw [names_joined, List.mem_append, List.map_singleton, List.mem_singleton, not_or]
      refine ⟨hfresh other (List.mem_cons_of_mem _ hother), fun heq => hadded.1 ?_⟩
      exact heq ▸ List.mem_map_of_mem hother
    have hall := ih (h.register (hfresh entry (List.mem_cons_self ..))) hrest hadded.2
    simpa [joined] using hall

theorem reword (h : Accounts acts r) (hname : name ∈ r.names) (notice : String) :
    Accounts (acts ++ [.noticed name notice]) (r.reworded name notice) where
  nodup := by
    rw [names_discourage (discourage_of_mem hname notice)]
    exact h.nodup
  strategy other := by
    rw [find?_reworded, Option.map_map, strategiesOf, List.filterMap_append]
    have hsame : (Entry.strategy ∘ fun e => if e.name = name then { e with deprecation := some notice } else e) =
        Entry.strategy := by
      funext e
      simp only [Function.comp]
      split <;> rfl
    rw [hsame, h.strategy, strategiesOf]
    simp [Act.strategy?]
  notice other := by
    have hbefore := h.notice other
    unfold noticesOf at hbefore ⊢
    rw [find?_reworded, List.filterMap_append, List.getLast?_append, ← hbefore]
    cases hfind : r.find? other with
    | none =>
      have hother : name ≠ other := fun heq => find?_eq_none_iff.1 hfind (heq ▸ hname)
      simp [Act.notice?, hother]
    | some e =>
      have he : e.name = other := by simpa using List.find?_some hfind
      by_cases heq : name = other
      · simp [Act.notice?, heq, he]
      · simp [Act.notice?, heq, he, Ne.symm heq]

/-- What a request does is accounted for. -/
theorem does {done : List Act} {r' : Registry} (h : Accounts acts r) (hdoes : Does r done r') :
    Accounts (acts ++ done) r' := by
  cases hdoes with
  | adds hfresh hadded => exact h.register_all hfresh hadded
  | rewords hname => exact h.reword hname _

/-- What requests do is accounted for. -/
theorem history (h : Accounts acts r) (requests : List Request) :
    Accounts (acts ++ (r.history requests).flatMap Exchange.acts) (r.afterAll requests) := by
  induction requests generalizing acts r with
  | nil => simpa [Registry.history, afterAll] using h
  | cons request rest ih =>
    have hrest := ih (h.does (serve_cases r request))
    rwa [List.append_assoc] at hrest

end Accounts

/-! ### Requests of any kind -/

theorem Does.names_grow {done : List Act} {r' : Registry} (h : Does r done r') : r.names <+: r'.names := by
  cases h with
  | adds => exact ⟨_, (names_joined r _).symm⟩
  | @rewords name notice hname =>
    have hnames := names_discourage (discourage_of_mem hname notice)
    exact ⟨[], (List.append_nil _).trans hnames.symm⟩

theorem names_grow_afterAll (r : Registry) (requests : List Request) :
    r.names <+: (r.afterAll requests).names := by
  induction requests generalizing r with
  | nil => exact List.prefix_refl _
  | cons request rest ih => exact (serve_cases r request).names_grow.trans (ih _)

/-- Names join at the end, at each request and from there on. -/
theorem names_grow_history (r : Registry) (requests : List Request) :
    ∀ e ∈ r.history requests, e.before.names <+: e.after.names ∧ e.after.names <+: (r.afterAll requests).names := by
  induction requests generalizing r with
  | nil => simp [history]
  | cons request rest ih =>
    intro e he
    rcases List.mem_cons.1 he with rfl | hlater
    · exact ⟨(serve_cases r request).names_grow, names_grow_afterAll _ rest⟩
    · exact ih _ e hlater

/-- The name that a request asks about, which is to be there. -/
def Request.subject? : Request → Option String
  | .entry name | .strategy name | .deprecation name | .discourage name _ => some name
  | _ => none

/-- What a request for an entry is answered with. -/
def Request.shows (entry : Entry) : Request → Value
  | .entry _ => describe entry
  | .strategy _ => .text entry.strategy.name
  | .deprecation _ => .ofText? entry.deprecation
  | _ => .null

theorem outcome_of_find? {request : Request} (hrequest : request.subject? = some name)
    (h : r.find? name = some entry) : (r.serve request).outcome = .ok (request.shows entry) := by
  have hname : name ∈ r.names := has_iff.1 (by rw [has, h]; rfl)
  cases request with
  | entry => cases hrequest; simp only [serve, look, Registry.entry, h]; rfl
  | strategy => cases hrequest; simp only [serve, look, Registry.entry, h]; rfl
  | deprecation => cases hrequest; simp only [serve, look, Registry.entry, h]; rfl
  | discourage => cases hrequest; simp only [serve, change, discourage_of_mem hname]; rfl
  | _ => cases hrequest

theorem outcome_of_not_mem {request : Request} (hrequest : request.subject? = some name) (h : name ∉ r.names) :
    (r.serve request).outcome = .error (.unknownDirective name r.names) := by
  have hnone := find?_eq_none_iff.2 h
  cases request with
  | entry => cases hrequest; simp only [serve, look, Registry.entry, hnone]; rfl
  | strategy => cases hrequest; simp only [serve, look, Registry.entry, hnone]; rfl
  | deprecation => cases hrequest; simp only [serve, look, Registry.entry, hnone]; rfl
  | discourage => cases hrequest; simp only [serve, change, discourage_of_not_mem h]
  | _ => cases hrequest

/-- A request that is refused leaves the registry alone and records nothing, unless it is for the built-in
names. -/
theorem serve_refused {request : Request} {fault : Fault} (hrequest : ∀ skipExisting, request ≠ .builtins skipExisting)
    (h : (r.serve request).outcome = .error fault) : r.serve request = ⟨.error fault, r, []⟩ := by
  cases request with
  | builtins skipExisting => exact absurd rfl (hrequest skipExisting)
  | register name strategy deprecation =>
    by_cases htaken : name ∈ r.names
    · simp only [serve, register_of_mem htaken, change] at h ⊢
      rw [h]
    · simp only [serve, register_of_not_mem htaken, change] at h
      cases h
  | discourage name notice =>
    by_cases hthere : name ∈ r.names
    · simp only [serve, discourage_of_mem hthere, change] at h
      cases h
    · simp only [serve, discourage_of_not_mem hthere, change] at h ⊢
      rw [h]
  | _ =>
    simp only [serve, look] at h ⊢
    rw [h]

theorem has_eq (r : Registry) (name : String) : r.has name = decide (name ∈ r.names) := by
  rw [Bool.eq_iff_iff, has_iff, decide_eq_true_eq]

theorem discourageAll_eq_afterAll {notices : List (String × String)} {r' : Registry}
    (h : r.discourageAll notices = .ok r') : r' = r.afterAll (notices.map fun n => .discourage n.1 n.2) := by
  induction notices generalizing r with
  | nil => exact (Except.ok.inj h).symm
  | cons n rest ih =>
    by_cases hname : n.1 ∈ r.names
    · rw [discourageAll, discourage_of_mem hname] at h
      rw [List.map_cons, afterAll, List.foldl_cons, ← afterAll, serve, discourage_of_mem hname]
      exact ih h
    · rw [discourageAll, discourage_of_not_mem hname] at h
      cases h

/-- A registry of the built-in names is one that requests leave, so what holds of those holds of it. -/
theorem ofBuiltins_eq_afterAll {notices : List (String × String)} (h : ofBuiltins notices = .ok r) :
    r = afterAll empty (.builtins false :: notices.map fun n => .discourage n.1 n.2) :=
  discourageAll_eq_afterAll h

/-- Requests of any kind are put to an empty registry one after another, and some are refused. Its names differ,
and at each request those that join do so behind the others. A name is there once it has been registered; it
has the strategy that it was first registered with, and the notice that it was given last, by registering it
or by marking it. A refused request changes nothing, unless it is for the built-in names. Whether a name is
there can always be asked; to ask about it otherwise is refused, as about an unknown one, exactly if it is not
there, and else the entry is shown as it then is. -/
theorem requests_kept (requests : List Request) :
    let exchanges := history empty requests
    let acts := exchanges.flatMap Exchange.acts
    let final := afterAll empty requests
    final.names.Nodup ∧
    (∀ e ∈ exchanges, e.before.names <+: e.after.names ∧ e.after.names <+: final.names) ∧
    (∀ name, (final.find? name).map Entry.strategy = (strategiesOf name acts).head? ∧
      (final.find? name).map Entry.deprecation = (noticesOf name acts).getLast?) ∧
    (∀ e ∈ exchanges, ∀ fault, (∀ skipExisting, e.request ≠ .builtins skipExisting) →
      e.reply.outcome = .error fault → e.reply = ⟨.error fault, e.before, []⟩) ∧
    (∀ e ∈ exchanges, ∀ name, e.request = .has name →
      e.reply.outcome = .ok (.bool (decide (name ∈ e.before.names)))) ∧
    ∀ e ∈ exchanges, ∀ name, e.request.subject? = some name →
      (name ∉ e.before.names → e.reply.outcome = .error (.unknownDirective name e.before.names)) ∧
      (name ∈ e.before.names →
        ∃ entry, e.before.find? name = some entry ∧ e.reply.outcome = .ok (e.request.shows entry)) := by
  intro exchanges acts final
  have haccounts : Accounts acts final := accounts_empty.history requests
  refine ⟨haccounts.nodup, names_grow_history empty requests,
    fun name => ⟨haccounts.strategy name, haccounts.notice name⟩,
    fun e _ fault hrequest hfault => serve_refused hrequest hfault, fun e _ name hrequest => ?_,
    fun e _ name hsubject => ⟨fun hnot => outcome_of_not_mem hsubject hnot, fun hthere => ?_⟩⟩
  · rw [Exchange.reply, hrequest, serve, look, has_eq]
  · obtain ⟨entry, hentry⟩ := Option.ne_none_iff_exists'.1 (mt find?_eq_none_iff.1 (not_not_intro hthere))
    exact ⟨entry, hentry, outcome_of_find? hsubject hentry⟩

-- The second built-in name is taken, so the first is registered by a request that is refused.
example :
    let requests : List Request := [.register "include_relative" (.fixed ["/shared"]) (some "old"), .builtins false,
      .discourage "include_file" "older", .discourage "nope" "", .discourage "include_file" "oldest"]
    (afterAll empty requests).entries =
      [⟨"include_relative", .fixed ["/shared"], some "old"⟩, ⟨"include_file", .includeRoots, some "oldest"⟩] := by
  with_unfolding_all rfl

end Transclusion.Directive.Registry

import Transclusion.Proofs.Fetching
import Transclusion.Proofs.Lookups
import Transclusion.Proofs.Paths

/-! Files that several paths lead to.

An entry of a cache is for a path and not for the file that the path leads to: calls
share an entry if and only if they are for one path (`compiled_once_a_path`). A link on
the way, or a segment that names the parent, gives a file further paths, and it is
compiled once for each of those that it is called by. Where neither occurs, the path is
what its names spell (`Leads.eq_append`), so a file has one path below an anchor and is
compiled once at most. -/
namespace Transclusion

namespace Files
variable {files : Files}

instance (files : Files) (path : Path) (place : Place) : Decidable (files.LeadsTo path place) :=
  decidable_of_iff ((files.place path).toOption = some place) <| by
    rw [← place_eq_ok_iff]
    cases files.place path <;> simp [Except.toOption]

/-- No link stands anywhere in the tree. -/
def Linkless (files : Files) : Prop := ∀ place target, files.node? place ≠ some (.link target)

/-- Without links, names that do not climb are passed one by one. -/
theorem Leads.eq_append (hlinkless : files.Linkless) {links : Nat} {here goal : Place} {segments : List Segment}
    (h : files.Leads links here segments goal) (hclimb : .parent ∉ segments) :
    goal = here ++ segments.map Segment.name := by
  induction h with
  | arrive place => simp
  | up => simp at hclimb
  | down _ _ _ _ _ _ _ ih =>
    rw [ih fun hmem => hclimb (List.mem_cons_of_mem _ hmem), List.map_cons, List.append_assoc,
      List.singleton_append]
  | through _ _ _ _ hnode => exact absurd hnode (hlinkless _ _)

/-- Without links, paths of one anchor that do not climb lead to different places. -/
theorem LeadsTo.injective (hlinkless : files.Linkless) {p q : Path} {place : Place} (h : files.LeadsTo p place)
    (h' : files.LeadsTo q place) (hanchor : p.anchor = q.anchor) (hp : .parent ∉ p.segments)
    (hq : .parent ∉ q.segments) : p = q := by
  obtain ⟨-, _, -, hleads⟩ := h
  obtain ⟨-, _, -, hleads'⟩ := h'
  have hnames : p.segments.map Segment.name = q.segments.map Segment.name := by
    have heq := (hleads.eq_append hlinkless hp).symm.trans (hleads'.eq_append hlinkless hq)
    rwa [hanchor, List.append_right_inj] at heq
  have hsegments : p.segments = q.segments := (Path.names_segments hnames).symm.trans (Path.names_segments rfl)
  obtain ⟨anchor, segments⟩ := p
  obtain ⟨_, _⟩ := q
  obtain rfl : anchor = _ := hanchor
  obtain rfl : segments = _ := hsegments
  rfl

end Files

namespace Inclusion

variable {C : Type}

theorem Call.key_inj {call other : Call} : call.key = other.key ↔ call.path = other.path :=
  ⟨Path.toString_injective, fun h => congrArg Path.toString h⟩

section
variable (host : Host C) {cache : Cache C} {calls : List Call}

theorem made_iff_of_mem {e : Exchange C} (h : e ∈ history host cache calls) : e.made = true ↔ e.Compiles host := by
  obtain ⟨met, call, rfl⟩ := exists_of_mem_history host h
  exact made_iff host met call

/-- No two calls that take compiling and come to a partial are for one path. -/
theorem pairwise_made (cache : Cache C) (calls : List Call) :
    (history host cache calls).Pairwise fun e e' => e.made = true → e'.made = true → e.call.path ≠ e'.call.path := by
  refine (pairwise_history host cache calls).imp fun {e e'} hlater hmade hmade' hpath => ?_
  obtain ⟨-, compiled, hcompiled⟩ := Exchange.made_iff_ok.1 hmade
  have hentry := hlater (Call.key_inj.2 hpath) compiled hcompiled
  exact absurd (Exchange.made_iff_ok.1 hmade').1 (Bool.eq_false_iff.1 hentry.not_missed)

/-- A call that comes to a partial took compiling exactly if no call before it, for its path, has come to
one. -/
theorem made_iff_first {earlier later : List (Exchange C)} {e : Exchange C}
    (hsplit : history host .empty calls = earlier ++ e :: later) (hok : e.outcome.isOk = true) :
    e.made = true ↔ ∀ e' ∈ earlier, e'.call.path = e.call.path → e'.outcome.isOk = false := by
  constructor
  · intro hmade e' hmem hpath
    have hlater := pairwise_history host .empty calls
    rw [hsplit, List.pairwise_append] at hlater
    cases hout : e'.outcome with
    | error fault => rfl
    | ok compiled =>
      have hentry := hlater.2.2 e' hmem e (List.mem_cons_self ..) (Call.key_inj.2 hpath) compiled hout
      exact absurd (Exchange.made_iff_ok.1 hmade).1 (Bool.eq_false_iff.1 hentry.not_missed)
  · intro hfirst
    have hanew := history_unfound host rfl hsplit fun e' hmem hkey => by
      have hfailed := hfirst e' hmem (Call.key_inj.1 hkey)
      cases hout : e'.outcome with
      | error fault => exact ⟨fault, rfl⟩
      | ok compiled => rw [hout] at hfailed; cases hfailed
    rw [Exchange.made, hanew.missed, hok]
    rfl

/-- A path for which some call comes to a partial is compiled for the first of them. -/
theorem exists_made {e : Exchange C} (he : e ∈ history host .empty calls) (hok : e.outcome.isOk = true) :
    ∃ first ∈ history host .empty calls, first.call.path = e.call.path ∧ first.made = true := by
  let wanted (e' : Exchange C) : Bool := decide (e'.call.path = e.call.path) && e'.outcome.isOk
  obtain ⟨first, hfirst⟩ := Option.isSome_iff_exists.1
    ((List.find?_isSome (p := wanted)).2 ⟨e, he, by simp [wanted, hok]⟩)
  obtain ⟨hwanted, earlier, later, hsplit, hbefore⟩ := List.find?_eq_some_iff_append.1 hfirst
  simp only [wanted, Bool.and_eq_true, decide_eq_true_eq] at hwanted
  obtain ⟨hpath, hfirstok⟩ := hwanted
  refine ⟨first, List.mem_of_find?_eq_some hfirst, hpath, (made_iff_first host hsplit hfirstok).2 ?_⟩
  intro e' hmem hsame
  simpa [wanted, hsame, hpath] using hbefore e' hmem

/-- The paths of the calls that compiled what stands at a place, in the order of the calls. -/
def compilations (files : Files) (place : Place) (exchanges : List (Exchange C)) : List Path :=
  (exchanges.filter fun e => e.made && decide (files.LeadsTo e.call.path place)).map (·.call.path)

theorem nodup_compilations (files : Files) (place : Place) (calls : List Call) :
    (compilations files place (history host .empty calls)).Nodup := by
  rw [compilations, List.Nodup, List.pairwise_map, List.pairwise_filter]
  refine (pairwise_made host .empty calls).imp fun {e e'} hne hmade hmade' => ?_
  rw [Bool.and_eq_true] at hmade hmade'
  exact hne hmade.1 hmade'.1

theorem mem_compilations_iff {files : Files} {place : Place} {path : Path} :
    path ∈ compilations files place (history host .empty calls) ↔
      files.LeadsTo path place ∧
        ∃ e ∈ history host .empty calls, e.call.path = path ∧ e.outcome.isOk = true := by
  simp only [compilations, List.mem_map, List.mem_filter, Bool.and_eq_true, decide_eq_true_eq]
  constructor
  · rintro ⟨e, ⟨he, hmade, hleads⟩, rfl⟩
    rw [Exchange.made, Bool.and_eq_true] at hmade
    exact ⟨hleads, e, he, rfl, hmade.2⟩
  · rintro ⟨hleads, e, he, rfl, hok⟩
    obtain ⟨first, hfirst, hpath, hmade⟩ := exists_made host he hok
    exact ⟨first, ⟨hfirst, hmade, hpath ▸ hleads⟩, hpath⟩

end

theorem length_le_one_iff_of_nodup {α : Type} {l : List α} (h : l.Nodup) :
    l.length ≤ 1 ↔ ∀ a ∈ l, ∀ b ∈ l, a = b := by
  match l, h with
  | [], _ => simp
  | [a], _ => simp
  | a :: b :: rest, h =>
    have hne : a ≠ b := fun heq => (List.nodup_cons.1 h).1 (heq ▸ List.mem_cons_self ..)
    refine ⟨fun hlen => absurd hlen (by simp), fun hall => absurd ?_ hne⟩
    exact hall a (List.mem_cons_self ..) b (List.mem_cons_of_mem _ (List.mem_cons_self ..))

/-- What stands at a place is compiled once for each path by which a call leads there and comes to a
partial: of the calls for one path the first that comes to a partial takes compiling, and no call shares the
entry of another path. So it is compiled once at most if and only if all those calls are for one path, which
they are where the tree has no links and the paths start at one anchor and do not climb. -/
theorem compiled_once_a_path (host : Host C) (files : Files) (requests : List (String × Desk)) :
    let exchanges := history host .empty (requests.map fun (spelling, desk) => ⟨spelling, files, desk⟩)
    (∀ earlier e later, exchanges = earlier ++ e :: later → e.outcome.isOk = true →
      (e.Compiles host ↔ ∀ e' ∈ earlier, e'.call.path = e.call.path → e'.outcome.isOk = false)) ∧
    (∀ place, (compilations files place exchanges).Nodup ∧
      (∀ path, path ∈ compilations files place exchanges ↔ files.LeadsTo path place ∧
        ∃ e ∈ exchanges, e.call.path = path ∧ e.outcome.isOk = true) ∧
      ((compilations files place exchanges).length ≤ 1 ↔
        ∀ e ∈ exchanges, ∀ e' ∈ exchanges, e.outcome.isOk = true → e'.outcome.isOk = true →
          files.LeadsTo e.call.path place → files.LeadsTo e'.call.path place → e.call.path = e'.call.path)) ∧
    (files.Linkless → ∀ anchor,
      (∀ e ∈ exchanges, e.call.path.anchor = anchor ∧ .parent ∉ e.call.path.segments) →
      ∀ place, (compilations files place exchanges).length ≤ 1) := by
  intro exchanges
  have honce (place : Place) : (compilations files place exchanges).length ≤ 1 ↔
      ∀ e ∈ exchanges, ∀ e' ∈ exchanges, e.outcome.isOk = true → e'.outcome.isOk = true →
        files.LeadsTo e.call.path place → files.LeadsTo e'.call.path place → e.call.path = e'.call.path := by
    rw [length_le_one_iff_of_nodup (nodup_compilations host files place _)]
    simp only [mem_compilations_iff]
    constructor
    · intro hall e he e' he' hok hok' hleads hleads'
      exact hall _ ⟨hleads, e, he, rfl, hok⟩ _ ⟨hleads', e', he', rfl, hok'⟩
    · rintro hall _ ⟨hleads, e, he, rfl, hok⟩ _ ⟨hleads', e', he', rfl, hok'⟩
      exact hall e he e' he' hok hok' hleads hleads'
  refine ⟨fun earlier e later hsplit hok => ?_, fun place => ⟨nodup_compilations host files place _,
    fun path => mem_compilations_iff host, honce place⟩, fun hlinkless anchor hstraight place => ?_⟩
  · have hmem : e ∈ exchanges := hsplit ▸ List.mem_append_right _ (List.mem_cons_self ..)
    rw [← made_iff_of_mem host hmem]
    exact made_iff_first host hsplit hok
  · refine (honce place).2 fun e he e' he' _ _ hleads hleads' => ?_
    obtain ⟨hanchor, hclimb⟩ := hstraight e he
    obtain ⟨hanchor', hclimb'⟩ := hstraight e' he'
    exact hleads.injective hlinkless hleads' (hanchor.trans hanchor'.symm) hclimb hclimb'

/-- A file below a directory that a link leads to as well. -/
def aliased : Files :=
  .ofNodes [(["shared".toList], .directory), (["shared".toList, "nav".toList], .file [72, 105]),
    (["alias".toList], .link "shared".toList), (["pages".toList], .directory)]

/-- One file, three paths, three compilations. -/
theorem compilations_aliased :
    let spellings := ["/shared/nav", "/alias/nav", "/pages/../shared/nav"]
    let exchanges := history (Template.host .standard ⟨.empty, none⟩ "utf-8") .empty
      (spellings.map fun spelling => ⟨spelling, aliased, .empty⟩)
    (∀ spelling ∈ spellings, aliased.LeadsTo (.ofString spelling) ["shared".toList, "nav".toList]) ∧
      compilations aliased ["shared".toList, "nav".toList] exchanges = spellings.map .ofString := by
  decide +kernel

end Inclusion

end Transclusion

import Transclusion.Directive.Registry

/-! Registering several names.

Names are registered one after another, and each is tried on what the ones before it have
left. Since they differ, none stands in the way of another: a name is passed over or refused
exactly if it was taken from the start. So with taken names skipped all others are added
(`registerAll_skipping`); without, those before the first taken one, where the run stops
(`registerAll_stopped`). The built-in names are two, and a run over them that is refused
leaves the registry as it was unless the second name alone was taken: then the first has
been added (`registerBuiltins_ends`). -/
namespace Transclusion.Directive.Registry

variable {r : Registry} {name other : String} {strategy : Strategy} {skipExisting : Bool}
  {names rest : List (String × Strategy)}

/-! ### Names behind others -/

theorem has_iff : r.has name = true ↔ name ∈ r.names := by
  simp [has, find?, Registry.names]

/-- The entry of a name that is registered without a notice. -/
def unnoticed (n : String × Strategy) : Entry := ⟨n.1, n.2, none⟩

/-- The registry with names behind its own. -/
def extended (r : Registry) (names : List (String × Strategy)) : Registry := ⟨r.entries ++ names.map unnoticed⟩

theorem extended_nil (r : Registry) : r.extended [] = r := by
  simp [extended]

theorem extended_cons (r : Registry) (n : String × Strategy) (rest : List (String × Strategy)) :
    r.extended (n :: rest) = (r.extended [n]).extended rest := by
  simp [extended]

theorem names_extended (r : Registry) (names : List (String × Strategy)) :
    (r.extended names).names = r.names ++ names.map Prod.fst := by
  simp [extended, Registry.names, unnoticed]

/-- A name that has been added stands in the way of none of the others. -/
theorem mem_names_extended (h : name ∉ rest.map Prod.fst) (strategy : Strategy) :
    ∀ n ∈ rest, n.1 ∈ (r.extended [(name, strategy)]).names ↔ n.1 ∈ r.names := by
  intro n hn
  have hne : n.1 ≠ name := fun he => h (he ▸ List.mem_map_of_mem hn)
  simp [names_extended, hne]

/-! ### One name after another -/

theorem registerAll_fresh (h : name ∉ r.names) (strategy : Strategy) (rest : List (String × Strategy)) :
    (r.registerAll skipExisting ((name, strategy) :: rest)).outcome =
        ((r.extended [(name, strategy)]).registerAll skipExisting rest).outcome ∧
      (r.registerAll skipExisting ((name, strategy) :: rest)).registry =
        ((r.extended [(name, strategy)]).registerAll skipExisting rest).registry := by
  have hfree : r.has name = false := Bool.eq_false_iff.2 (mt has_iff.1 h)
  rw [registerAll, register, hfree]
  simp only [Bool.and_false, Bool.false_eq_true, if_false]
  exact ⟨rfl, rfl⟩

theorem registerAll_skipped (h : name ∈ r.names) :
    r.registerAll true ((name, strategy) :: rest) = r.registerAll true rest := by
  rw [registerAll, has_iff.2 h]
  rfl

theorem registerAll_refused (h : name ∈ r.names) (strategy : Strategy) (rest : List (String × Strategy)) :
    r.registerAll false ((name, strategy) :: rest) =
      ⟨.error (.duplicateDirective name), r, [notRegistered name (.duplicateDirective name)]⟩ := by
  rw [registerAll, register, has_iff.2 h]
  rfl

/-- Where all names are taken and skipped, nothing happens. -/
theorem registerAll_taken (h : ∀ n ∈ names, n.1 ∈ r.names) : r.registerAll true names = ⟨.ok .null, r, []⟩ := by
  induction names with
  | nil => rfl
  | cons n rest ih =>
    rw [registerAll_skipped (h n (List.mem_cons_self ..))]
    exact ih fun m hm => h m (List.mem_cons_of_mem n hm)

theorem registerAll_skipping (hnames : (names.map Prod.fst).Nodup) :
    (r.registerAll true names).outcome = .ok .null ∧
      (r.registerAll true names).registry = r.extended (names.filter fun n => n.1 ∉ r.names) := by
  induction names generalizing r with
  | nil => exact ⟨rfl, (extended_nil r).symm⟩
  | cons n rest ih =>
    obtain ⟨name, strategy⟩ := n
    rw [List.map_cons, List.nodup_cons] at hnames
    by_cases htaken : name ∈ r.names
    · rw [registerAll_skipped htaken, List.filter_cons_of_neg (by simpa using htaken)]
      exact ih hnames.2
    · obtain ⟨houtcome, hregistry⟩ := ih (r := r.extended [(name, strategy)]) hnames.2
      have hsame : (rest.filter fun n => n.1 ∉ (r.extended [(name, strategy)]).names) =
          rest.filter fun n => n.1 ∉ r.names :=
        List.filter_congr fun n hn => by simp only [mem_names_extended hnames.1 strategy n hn]
      obtain ⟨hlater, hfinal⟩ := registerAll_fresh htaken strategy rest
      rw [List.filter_cons_of_pos (by simpa using htaken), extended_cons, ← hsame]
      exact ⟨hlater.trans houtcome, hfinal.trans hregistry⟩

/-- Fresh names are added, and then the rest is tried. -/
theorem registerAll_append (hfresh : ∀ n ∈ names, n.1 ∉ r.names) (hnames : (names.map Prod.fst).Nodup)
    (skipExisting : Bool) (rest : List (String × Strategy)) :
    (r.registerAll skipExisting (names ++ rest)).outcome =
        ((r.extended names).registerAll skipExisting rest).outcome ∧
      (r.registerAll skipExisting (names ++ rest)).registry =
        ((r.extended names).registerAll skipExisting rest).registry := by
  induction names generalizing r with
  | nil =>
    rw [extended_nil]
    exact ⟨rfl, rfl⟩
  | cons n more ih =>
    obtain ⟨name, strategy⟩ := n
    rw [List.map_cons, List.nodup_cons] at hnames
    have hmore : ∀ n ∈ more, n.1 ∉ (r.extended [(name, strategy)]).names := fun n hn =>
      mt (mem_names_extended hnames.1 strategy n hn).1 (hfresh n (List.mem_cons_of_mem _ hn))
    obtain ⟨hlater, hfinal⟩ := registerAll_fresh (hfresh _ (List.mem_cons_self ..)) strategy (more ++ rest)
    obtain ⟨houtcome, hregistry⟩ := ih hmore hnames.2
    rw [extended_cons]
    exact ⟨hlater.trans houtcome, hfinal.trans hregistry⟩

theorem registerAll_all (hfresh : ∀ n ∈ names, n.1 ∉ r.names) (hnames : (names.map Prod.fst).Nodup)
    (skipExisting : Bool) :
    (r.registerAll skipExisting names).outcome = .ok .null ∧
      (r.registerAll skipExisting names).registry = r.extended names := by
  have h := registerAll_append hfresh hnames skipExisting []
  rwa [List.append_nil] at h

/-- The first taken name stops the run, and those before it stay. -/
theorem registerAll_stopped (hfresh : ∀ n ∈ names, n.1 ∉ r.names) (hnames : (names.map Prod.fst).Nodup)
    (htaken : name ∈ r.names) (strategy : Strategy) (rest : List (String × Strategy)) :
    (r.registerAll false (names ++ (name, strategy) :: rest)).outcome = .error (.duplicateDirective name) ∧
      (r.registerAll false (names ++ (name, strategy) :: rest)).registry = r.extended names := by
  have hstill : name ∈ (r.extended names).names := by
    rw [names_extended]
    exact List.mem_append_left _ htaken
  have h := registerAll_append hfresh hnames false ((name, strategy) :: rest)
  rwa [registerAll_refused hstill] at h

/-! ### The built-in names -/

theorem nodup_builtins : (builtins.map Prod.fst).Nodup := by decide

/-- All that can come of registering the built-in names. -/
theorem registerBuiltins_cases (r : Registry) (skipExisting : Bool) :
    ((r.registerBuiltins skipExisting).outcome = .ok .null ∧
        (r.registerBuiltins skipExisting).registry = r.extended (builtins.filter fun n => n.1 ∉ r.names) ∧
        (skipExisting = false → ∀ n ∈ builtins, n.1 ∉ r.names)) ∨
      (skipExisting = false ∧ "include_file" ∈ r.names ∧
        (r.registerBuiltins skipExisting).outcome = .error (.duplicateDirective "include_file") ∧
        (r.registerBuiltins skipExisting).registry = r) ∨
      (skipExisting = false ∧ "include_file" ∉ r.names ∧ "include_relative" ∈ r.names ∧
        (r.registerBuiltins skipExisting).outcome = .error (.duplicateDirective "include_relative") ∧
        (r.registerBuiltins skipExisting).registry = r.extended [("include_file", .includeRoots)]) := by
  cases skipExisting with
  | true =>
    obtain ⟨houtcome, hregistry⟩ := registerAll_skipping (r := r) nodup_builtins
    exact .inl ⟨houtcome, hregistry, nofun⟩
  | false =>
    by_cases hfile : "include_file" ∈ r.names
    · have hrefused := registerAll_refused hfile .includeRoots [("include_relative", .documentDirectory)]
      exact .inr (.inl ⟨rfl, hfile, congrArg Reply.outcome hrefused, congrArg Reply.registry hrefused⟩)
    · by_cases hrelative : "include_relative" ∈ r.names
      · have hfresh : ∀ n ∈ [("include_file", Strategy.includeRoots)], n.1 ∉ r.names := by simpa using hfile
        obtain ⟨houtcome, hregistry⟩ := registerAll_stopped hfresh (by decide) hrelative .documentDirectory []
        exact .inr (.inr ⟨rfl, hfile, hrelative, houtcome, hregistry⟩)
      · have hfresh : ∀ n ∈ builtins, n.1 ∉ r.names := by simpa [builtins] using ⟨hfile, hrelative⟩
        obtain ⟨houtcome, hregistry⟩ := registerAll_all hfresh nodup_builtins false
        refine .inl ⟨houtcome, ?_, fun _ => hfresh⟩
        rw [List.filter_eq_self.2 fun n hn => decide_eq_true (hfresh n hn)]
        exact hregistry

/-- Names are there once those that were not have been added. -/
theorem mem_names_completed (r : Registry) {names : List (String × Strategy)} :
    ∀ n ∈ names, n.1 ∈ (r.extended (names.filter fun n => n.1 ∉ r.names)).names := by
  intro n hn
  rw [names_extended, List.mem_append]
  by_cases htaken : n.1 ∈ r.names
  · exact .inl htaken
  · exact .inr (List.mem_map_of_mem (List.mem_filter.2 ⟨hn, decide_eq_true htaken⟩))

/-- How registering the built-in names ends. It is refused exactly if a name of theirs is taken and not
skipped, and then the registry is as it was, unless the second name alone was taken: then the first one
stands behind the entries there were. Otherwise both names are registered, the entries there were are the
first ones still, and registering again with taken names skipped does nothing at all. -/
theorem registerBuiltins_ends (r : Registry) (skipExisting : Bool) :
    let reply := r.registerBuiltins skipExisting
    ((∃ fault, reply.outcome = .error fault) ↔ skipExisting = false ∧ ∃ n ∈ builtins, n.1 ∈ r.names) ∧
    (∀ fault, reply.outcome = .error fault →
      ("include_file" ∈ r.names ∧ fault = .duplicateDirective "include_file" ∧ reply.registry = r) ∨
        ("include_file" ∉ r.names ∧ "include_relative" ∈ r.names ∧
          fault = .duplicateDirective "include_relative" ∧
          reply.registry.entries = r.entries ++ [⟨"include_file", .includeRoots, none⟩])) ∧
    ∀ answer, reply.outcome = .ok answer →
      (∀ n ∈ builtins, n.1 ∈ reply.registry.names) ∧
      reply.registry.entries = r.entries ++ (builtins.filter fun n => n.1 ∉ r.names).map unnoticed ∧
      reply.registry.registerBuiltins true = ⟨.ok .null, reply.registry, []⟩ := by
  intro reply
  obtain ⟨houtcome, hregistry, hfresh⟩ | ⟨hskip, hfile, houtcome, hregistry⟩ |
    ⟨hskip, hfile, hrelative, houtcome, hregistry⟩ := registerBuiltins_cases r skipExisting
  · have houtcome : reply.outcome = .ok .null := houtcome
    have hregistry : reply.registry = r.extended (builtins.filter fun n => n.1 ∉ r.names) := hregistry
    have hthere : ∀ n ∈ builtins, n.1 ∈ reply.registry.names := by
      rw [hregistry]
      exact mem_names_completed r
    have hnot : ∀ fault, reply.outcome ≠ .error fault := by
      rw [houtcome]
      exact fun _ => nofun
    refine ⟨iff_of_false (fun ⟨fault, hfault⟩ => hnot fault hfault) ?_,
      fun fault hfault => absurd hfault (hnot fault), fun _ _ => ⟨hthere, ?_, ?_⟩⟩
    · rintro ⟨hskip, n, hn, htaken⟩
      exact hfresh hskip n hn htaken
    · rw [hregistry]
      rfl
    · exact registerAll_taken hthere
  · have hcause : ∃ n ∈ builtins, n.1 ∈ r.names := ⟨_, List.mem_cons_self .., hfile⟩
    refine ⟨iff_of_true ⟨_, houtcome⟩ ⟨hskip, hcause⟩, fun fault hfault => .inl ⟨hfile, ?_, hregistry⟩,
      fun answer hanswer => nomatch houtcome.symm.trans hanswer⟩
    exact Except.error.inj (hfault.symm.trans houtcome)
  · have hcause : ∃ n ∈ builtins, n.1 ∈ r.names :=
      ⟨_, List.mem_cons_of_mem _ (List.mem_cons_self ..), hrelative⟩
    refine ⟨iff_of_true ⟨_, houtcome⟩ ⟨hskip, hcause⟩,
      fun fault hfault => .inr ⟨hfile, hrelative, ?_, congrArg Registry.entries hregistry⟩,
      fun answer hanswer => nomatch houtcome.symm.trans hanswer⟩
    exact Except.error.inj (hfault.symm.trans houtcome)

/-- A refusal can leave the registry changed. -/
theorem registerBuiltins_half_done :
    ¬∀ (r : Registry) (skipExisting : Bool) (fault : Fault),
      (r.registerBuiltins skipExisting).outcome = .error fault →
        (r.registerBuiltins skipExisting).registry = r := by
  intro h
  have hsame := h ⟨[⟨"include_relative", .documentDirectory, none⟩]⟩ false
    (.duplicateDirective "include_relative") rfl
  exact absurd (congrArg Registry.names hsame) (by decide)

end Transclusion.Directive.Registry

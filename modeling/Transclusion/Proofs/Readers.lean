import Transclusion.Proofs.Environments
import Transclusion.Proofs.Paths
import Transclusion.Scope.Action

/-! Reading a scope.

A scope is read in three ways: by dotted names, by asking whether a name is bound, and
flattened. In every state that programs over a scope reach, the three agree
(`readers_agree`). What carries this is that no action makes a layer bind a name twice
(`Distinct.run`); the value of a name is then the one in the innermost layer that
binds it (`Binds`), null or not, and a path is followed from that value alone: where
a step is missing, nothing is, whatever the outer layers bind. -/
namespace Transclusion

/-! ### Dotted names -/

namespace Text

theorem cutAt?_of_not_mem {sep : Char} {cs : List Char} (h : sep ∉ cs) : cutAt? [sep] cs = none := by
  induction cs with
  | nil => rfl
  | cons c cs ih =>
    obtain ⟨hc, hcs⟩ := not_or.1 (mt List.mem_cons.2 h)
    have hprefix : [sep].isPrefixOf (c :: cs) = false := by
      rw [List.isPrefixOf, beq_false_of_ne hc, Bool.false_and]
    rw [cutAt?, hprefix, ih hcs]
    rfl

theorem cutAt?_append {sep : Char} {before : List Char} (h : sep ∉ before) (after : List Char) :
    cutAt? [sep] (before ++ sep :: after) = some (before, after) := by
  induction before with
  | nil => simp [cutAt?]
  | cons c cs ih =>
    obtain ⟨hc, hcs⟩ := not_or.1 (mt List.mem_cons.2 h)
    have hprefix : [sep].isPrefixOf (c :: (cs ++ sep :: after)) = false := by
      rw [List.isPrefixOf, beq_false_of_ne hc, Bool.false_and]
    rw [List.cons_append, cutAt?, hprefix, ih hcs]
    rfl

end Text

/-- A name and members behind it, with dots between. -/
def dotted (head : List Char) (members : List (List Char)) : List Char := Text.joinWith '.' (head :: members)

/-- Names without dots, of which the members are not empty. -/
structure IsPath (head : List Char) (members : List (List Char)) : Prop where
  head : '.' ∉ head
  members : ∀ m ∈ members, m ≠ [] ∧ '.' ∉ m

theorem dottedParts_dotted {head : List Char} {members : List (List Char)} (h : IsPath head members) :
    dottedParts (dotted head members) = (head, members) := by
  cases members with
  | nil => rw [dottedParts, dotted, Text.joinWith, Text.cutAt?_of_not_mem h.head]
  | cons m rest =>
    have hrest : Text.splitOn '.' (Text.joinWith '.' (m :: rest)) = m :: rest :=
      Text.splitOn_joinWith (fun piece hp => (h.members piece hp).2) (List.cons_ne_nil m rest)
    have hne : Text.joinWith '.' (m :: rest) ≠ [] := by
      obtain ⟨c, cs, hm⟩ := List.exists_cons_of_ne_nil (h.members m (List.mem_cons_self ..)).1
      rw [hm]
      cases rest <;> exact List.cons_ne_nil _ _
    rw [dottedParts, show dotted head (m :: rest) = head ++ '.' :: Text.joinWith '.' (m :: rest) from rfl,
      Text.cutAt?_append h.head]
    split
    · next heq => cases heq
    · next heq =>
      simp only [Option.some.injEq, Prod.mk.injEq] at heq
      exact absurd heq.2 hne
    · next heq =>
      simp only [Option.some.injEq, Prod.mk.injEq] at heq
      rw [← heq.1, ← heq.2, hrest]

namespace Scope
variable {s : Scope} {table : Attributes} {name : String} {head : List Char} {members : List (List Char)}

theorem get?_of_find?_some (hparts : dottedParts name.toList = (head, members)) {v : Value}
    (hfind : s.find? (String.ofList head) = some v) : s.get? name table = v.follow table members := by
  simp only [get?, hparts, hfind]

theorem get?_of_find?_none (hparts : dottedParts name.toList = (head, members))
    (hfind : s.find? (String.ofList head) = none) : s.get? name table = .ok none := by
  simp only [get?, hparts, hfind]

end Scope

/-! ### Following members -/

namespace Value
variable (table : Attributes)

/-- A value has another at the end of a path of members. -/
inductive Has : Value → List (List Char) → Value → Prop
  | here (v : Value) : Has v [] v
  | member {v next w : Value} {name : List Char} {rest : List (List Char)} (hnull : v ≠ .null)
      (hmember : v.member? table (String.ofList name) = some next) (hrest : Has next rest w) :
      Has v (name :: rest) w

/-- A value lacks a member: it is null, a mapping without the key, or has no such attribute. An undefined
value is asked for reserved members only. -/
def Lacks (v : Value) (name : List Char) : Prop :=
  match v with
  | .null => True
  | .dict entries => lookupKey (.text (String.ofList name)) entries = none
  | .undefined absence =>
    attribute? table (.undefined absence) (String.ofList name) = none ∧ isReservedMember name = true
  | v => v.attribute? table (String.ofList name) = none

/-- Some step of a path is missing. -/
def Misses (v : Value) (members : List (List Char)) : Prop :=
  ∃ before name after w, members = before ++ name :: after ∧ v.Has table before w ∧ w.Lacks table name

variable {table} {v w next : Value} {name : List Char} {members rest : List (List Char)}

theorem has_nil : v.Has table [] w ↔ v = w :=
  ⟨fun | .here _ => rfl, fun h => h ▸ .here v⟩

theorem has_cons : v.Has table (name :: rest) w ↔
    v ≠ .null ∧ ∃ next, v.member? table (String.ofList name) = some next ∧ next.Has table rest w :=
  ⟨fun | .member hnull hmember hrest => ⟨hnull, _, hmember, hrest⟩,
    fun ⟨hnull, _, hmember, hrest⟩ => .member hnull hmember hrest⟩

theorem misses_cons : v.Misses table (name :: rest) ↔ v.Lacks table name ∨
    v ≠ .null ∧ ∃ next, v.member? table (String.ofList name) = some next ∧ next.Misses table rest := by
  constructor
  · rintro ⟨before, last, after, w, hsplit, hhas, hlacks⟩
    cases hhas with
    | here =>
      obtain ⟨rfl, -⟩ := List.cons.inj hsplit
      exact .inl hlacks
    | member hnull hmember hrest =>
      obtain ⟨hname, htail⟩ := List.cons.inj hsplit
      exact .inr ⟨hnull, _, hname ▸ hmember, _, last, after, w, htail, hrest, hlacks⟩
  · rintro (hlacks | ⟨hnull, next, hmember, before, last, after, w, rfl, hhas, hlacks⟩)
    · exact ⟨[], name, rest, v, rfl, .here v, hlacks⟩
    · exact ⟨name :: before, last, after, w, rfl, .member hnull hmember hhas, hlacks⟩

theorem not_misses_nil : ¬v.Misses table [] := fun ⟨_, _, _, _, hsplit, _⟩ => by simp at hsplit

/-- What is null lacks everything; else what has a member does not lack it. -/
theorem Lacks.member?_eq_none (h : v.Lacks table name) (hnull : v ≠ .null) :
    v.member? table (String.ofList name) = none := by
  cases v with
  | null => exact absurd rfl hnull
  | undefined absence => exact h.1
  | _ => exact h

variable (table) in
/-- A value lacks a member, has it, or is undefined and may not be asked for it. -/
theorem lacks_or_has (v : Value) (name : List Char) : v.Lacks table name ∨
    (v ≠ .null ∧ ∃ next, v.member? table (String.ofList name) = some next) ∨
      ∃ absence, v = .undefined absence ∧ v.member? table (String.ofList name) = none ∧
        isReservedMember name = false := by
  by_cases hnull : v = .null
  · exact .inl (hnull ▸ trivial)
  cases hmember : v.member? table (String.ofList name) with
  | some next => exact .inr (.inl ⟨hnull, next, rfl⟩)
  | none =>
    cases v with
    | null => exact absurd rfl hnull
    | undefined absence =>
      cases hreserved : isReservedMember name with
      | true => exact .inl ⟨hmember, hreserved⟩
      | false => exact .inr (.inr ⟨absence, rfl, rfl, rfl⟩)
    | _ => exact .inl hmember

theorem follow_member (hnull : v ≠ .null) (hmember : v.member? table (String.ofList name) = some next) :
    v.follow table (name :: rest) = next.follow table rest := by
  cases v with
  | null => exact absurd rfl hnull
  | _ => simp only [follow, hmember]

theorem follow_of_lacks (h : v.Lacks table name) : v.follow table (name :: rest) = .ok none := by
  by_cases hnull : v = .null
  · rw [hnull, follow]
  have hmember := h.member?_eq_none hnull
  cases v with
  | null => exact absurd rfl hnull
  | undefined absence => simp only [follow, hmember, h.2, if_true]
  | _ => simp only [follow, hmember]

/-- What is undefined is not asked for a member that it does not have and that is not reserved. -/
theorem follow_undefined {absence : Absence}
    (hmember : (undefined absence).member? table (String.ofList name) = none)
    (hreserved : isReservedMember name = false) :
    (undefined absence).follow table (name :: rest) = .error (.run (.undefined absence)) := by
  simp [follow, hmember, hreserved]

/-- Following members comes to what a value has at the end of them. -/
theorem follow_eq_some_iff : v.follow table members = .ok (some w) ↔ v.Has table members w := by
  induction members generalizing v with
  | nil => simp [follow, has_nil]
  | cons name rest ih =>
    rw [has_cons]
    rcases lacks_or_has table v name with hlacks | ⟨hnull, next, hmember⟩ | ⟨absence, rfl, hmember, hreserved⟩
    · rw [follow_of_lacks hlacks]
      refine ⟨nofun, fun ⟨hnull, next, hmember, _⟩ => ?_⟩
      rw [hlacks.member?_eq_none hnull] at hmember
      cases hmember
    · rw [follow_member hnull hmember, hmember, ih]
      simp [hnull]
    · simp [follow_undefined hmember hreserved, hmember]

/-- It comes to nothing where a step is missing. -/
theorem follow_eq_none_iff : v.follow table members = .ok none ↔ v.Misses table members := by
  induction members generalizing v with
  | nil => simp [follow, not_misses_nil]
  | cons name rest ih =>
    rw [misses_cons]
    rcases lacks_or_has table v name with hlacks | ⟨hnull, next, hmember⟩ | ⟨absence, rfl, hmember, hreserved⟩
    · simp only [follow_of_lacks hlacks, hlacks, true_or]
    · have hlacks : ¬v.Lacks table name := fun h => by
        rw [h.member?_eq_none hnull] at hmember
        cases hmember
      rw [follow_member hnull hmember, hmember, ih]
      simp [hnull, hlacks]
    · have hlacks : ¬(undefined absence).Lacks table name := fun h => by simp [Lacks, hreserved] at h
      simp [follow_undefined hmember hreserved, hmember, hlacks]

end Value

/-! ### Reached scopes -/

namespace Bindings

theorem mem_names_iff {b : Bindings} {name : String} : name ∈ b.map Prod.fst ↔ (b.get? name).isSome = true := by
  induction b with
  | nil => simp [get?]
  | cons entry rest ih =>
    obtain ⟨n, v⟩ := entry
    rw [List.map_cons, List.mem_cons, ih, get?, get?, List.lookup_cons]
    by_cases h : name = n
    · simp [h]
    · simp [h, beq_false_of_ne h]

end Bindings

namespace ScopeAction

mutual

/-- No layer that an action pushes binds a name twice. -/
def Proper : ScopeAction → Prop
  | push bindings => bindings.Distinct
  | block bindings body => bindings.Distinct ∧ AllProper body
  | attempt body => AllProper body
  | _ => True

def AllProper : List ScopeAction → Prop
  | [] => True
  | action :: rest => action.Proper ∧ AllProper rest

end

end ScopeAction

namespace Scope
open ScopeAction

theorem Distinct.set {s : Scope} (h : s.Distinct) (name : String) (value : Value) : (s.set name value).Distinct := by
  intro layer hmem
  rw [layers_set, List.mem_cons] at hmem
  rcases hmem with rfl | hmem
  · cases hlayers : s.layers with
    | nil => exact Bindings.distinct_nil.insert name value
    | cons first rest => exact (h first (by rw [hlayers]; exact List.mem_cons_self ..)).insert name value
  · exact h layer (List.mem_of_mem_tail hmem)

theorem Distinct.pop? {s t : Scope} (h : s.Distinct) (hpop : s.pop? = some t) : t.Distinct :=
  fun layer hmem => h layer (List.mem_of_mem_tail (layers_pop? hpop ▸ hmem))

theorem Distinct.pop {s t : Scope} (h : s.Distinct) (hpop : s.pop = .ok t) : t.Distinct := by
  unfold Scope.pop at hpop
  split at hpop
  · next hsome => exact Except.ok.inj hpop ▸ h.pop? hsome
  · cases hpop

theorem Distinct.leave {body : ScopeRun} (h : body.scope.Distinct) : (leave body).scope.Distinct := by
  unfold ScopeAction.leave
  split
  · next hpop => exact h.pop hpop
  · exact h

mutual

/-- No action makes a layer bind a name twice. -/
theorem Distinct.run {s : Scope} (h : s.Distinct) (action : ScopeAction) (ha : action.Proper) :
    (run s action).scope.Distinct := by
  cases action with
  | push bindings => exact h.push ha
  | pop =>
    simp only [ScopeAction.run]
    split
    · next hpop => exact h.pop hpop
    · exact h
  | set name value => exact h.set name value
  | get | contains | flatten | raise => exact h
  | block bindings body => exact Distinct.leave (Distinct.runAll (h.push ha.1) body ha.2)
  | attempt body => exact Distinct.runAll h body ha

theorem Distinct.runAll {s : Scope} (h : s.Distinct) (actions : List ScopeAction) (ha : AllProper actions) :
    (runAll s actions).scope.Distinct := by
  match actions with
  | [] => exact h
  | [action] => exact Distinct.run h action ha.1
  | action :: next :: rest =>
    have hfirst := Distinct.run h action ha.1
    simp only [ScopeAction.runAll]
    split
    · exact hfirst
    · exact Distinct.runAll hfirst (next :: rest) ha.2

end

/-- The scopes that actions reach from a base layer. -/
inductive Reached : Scope → Prop
  | base {bindings : Bindings} (h : bindings.Distinct) : Reached (ofBindings bindings)
  | act {s : Scope} {action : ScopeAction} (h : Reached s) (ha : action.Proper) : Reached (run s action).scope

theorem Reached.distinct {s : Scope} (h : s.Reached) : s.Distinct := by
  induction h with
  | base h => exact distinct_ofBindings h
  | @act _ action _ ha ih => exact ih.run action ha

/-! ### Three readers -/

/-- The innermost layer that binds a name binds it to a value. -/
def Binds (s : Scope) (name : String) (value : Value) : Prop :=
  ∃ inner layer outer, s.layers = inner ++ layer :: outer ∧ layer.get? name = some value ∧
    ∀ other ∈ inner, other.get? name = none

section
variable {s : Scope} {table : Attributes}

theorem find?_eq_some_iff {name : String} {value : Value} : s.find? name = some value ↔ s.Binds name value :=
  List.findSome?_eq_some_iff

theorem find?_eq_none_iff {name : String} : s.find? name = none ↔ ∀ layer ∈ s.layers, layer.get? name = none :=
  List.findSome?_eq_none_iff

/-- A name without dots is its head. -/
theorem get?_of_not_mem {name : String} (h : '.' ∉ name.toList) : s.get? name table = .ok (s.find? name) := by
  have hparts : dottedParts name.toList = (name.toList, []) := by
    rw [dottedParts, Text.cutAt?_of_not_mem h]
  cases hfind : s.find? name with
  | none => exact get?_of_find?_none hparts (by rw [String.ofList_toList, hfind])
  | some value => exact get?_of_find?_some hparts (by rw [String.ofList_toList, hfind])

theorem get?_dotted {head : List Char} {members : List (List Char)} (h : IsPath head members) :
    s.get? (String.ofList (dotted head members)) table =
      (s.find? (String.ofList head)).elim (.ok none) (·.follow table members) := by
  have hparts : dottedParts (String.ofList (dotted head members)).toList = (head, members) := by
    rw [String.toList_ofList, dottedParts_dotted h]
  cases hfind : s.find? (String.ofList head) with
  | none => exact get?_of_find?_none hparts hfind
  | some value => exact get?_of_find?_some hparts hfind

end

/-- In a scope that actions reach, a name has the value, or falls back on the default, that it has in the
flattened scope, whatever attributes values have. A name without dots is bound exactly if it is a key of
the flattened scope and exactly if it does not fall back, and its value, null or not, is the one there and
in the innermost layer that binds it. A path falls back exactly if no layer binds its head or, from the
value in the innermost layer that does, some step is missing; what else it comes to lies at its end. -/
theorem readers_agree {s : Scope} (h : s.Reached) :
    (∀ name default, (run s (.get name default)).outcome = (run (ofBindings s.flatten) (.get name default)).outcome) ∧
    ∀ table,
    (∀ name, s.get? name table = (ofBindings s.flatten).get? name table) ∧
    (∀ name, '.' ∉ name.toList →
      (s.contains name = true ↔ name ∈ s.flatten.map Prod.fst) ∧
      (s.contains name = true ↔ s.get? name table ≠ .ok none) ∧
      (∀ value, s.get? name table = .ok (some value) ↔ s.flatten.get? name = some value) ∧
      (∀ value, s.get? name table = .ok (some value) ↔ s.Binds name value)) ∧
    (∀ head members, IsPath head members →
      (s.get? (String.ofList (dotted head members)) table = .ok none ↔
        (∀ layer ∈ s.layers, layer.get? (String.ofList head) = none) ∨
          ∃ value, s.Binds (String.ofList head) value ∧ value.Misses table members) ∧
      (∀ w, s.get? (String.ofList (dotted head members)) table = .ok (some w) ↔
        ∃ value, s.Binds (String.ofList head) value ∧ value.Has table members w)) := by
  have hdistinct := h.distinct
  have hshows := hdistinct.shows_flatten
  have hflat (name : String) (table : Attributes) : s.get? name table = (ofBindings s.flatten).get? name table :=
    hshows.get?_eq hshows.ofBindings name table
  refine ⟨fun name default => ?_, fun table => ⟨(hflat · table),
    fun name hname => ⟨?_, ?_, fun value => ?_, fun value => ?_⟩, fun head members hpath => ⟨?_, fun w => ?_⟩⟩⟩
  · show ofExcept ((s.get? name).map _) = ofExcept (((ofBindings s.flatten).get? name).map _)
    rw [hflat]
  · rw [contains_eq_isSome_find?, ← get?_flatten hdistinct, Bindings.mem_names_iff]
  · rw [contains_eq_isSome_find?, get?_of_not_mem hname, Option.isSome_iff_ne_none]
    simp
  · rw [get?_of_not_mem hname, get?_flatten hdistinct, Except.ok.injEq]
  · rw [get?_of_not_mem hname, ← find?_eq_some_iff, Except.ok.injEq]
  · rw [get?_dotted hpath, ← find?_eq_none_iff]
    simp only [← find?_eq_some_iff]
    cases s.find? (String.ofList head) with
    | none => simp
    | some value => simpa using Value.follow_eq_none_iff
  · rw [get?_dotted hpath]
    simp only [← find?_eq_some_iff]
    cases s.find? (String.ofList head) with
    | none => simp
    | some value => simpa using Value.follow_eq_some_iff

/-- A base layer, and a block that has been left, under a layer that binds one name to null and others to
a mapping whose entry is null and to a number. -/
def veiled : Scope :=
  (run (run (ofBindings [("x", .int 1), ("page", .dict [(.text "author", .dict [(.text "name", .text "Ada")])])])
    (.block [("y", .null)] [.set "x" (.int 2)])).scope
    (.push [("x", .null), ("page", .dict [(.text "author", .null)]), ("n", .int 5)])).scope

/-- The inner layer decides, though an outer one has a value for the name and one at the end of the path;
a number has its parts for members. -/
theorem readers_agree_veiled :
    veiled.Reached ∧ veiled.contains "x" = true ∧ veiled.get? "x" = .ok (some .null) ∧
      veiled.get? (String.ofList (dotted "page".toList ["author".toList, "name".toList])) = .ok none ∧
      veiled.get? (String.ofList (dotted "n".toList ["numerator".toList])) = .ok (some (.int 5)) := by
  have hreached : veiled.Reached := by
    refine .act (.act (.base ?_) ?_) ?_
    · exact (by decide : (["x", "page"] : List String).Nodup)
    · exact ⟨Bindings.distinct_singleton _ _, trivial, trivial⟩
    · exact (by decide : (["x", "page", "n"] : List String).Nodup)
  have hpath : IsPath "page".toList ["author".toList, "name".toList] := ⟨by decide, by decide⟩
  have hnumber : IsPath "n".toList ["numerator".toList] := ⟨by decide, by decide⟩
  obtain ⟨-, hplain, hpaths⟩ := (readers_agree hreached).2 .common
  obtain ⟨hkey, -, -, hbinds⟩ := hplain "x" (by decide)
  refine ⟨hreached, hkey.2 (by decide +kernel), (hbinds .null).2 ⟨[], _, _, rfl, rfl, nofun⟩,
    (hpaths _ _ hpath).1.2 (.inr ⟨.dict [(.text "author", .null)], ⟨[], _, _, rfl, rfl, nofun⟩, ?_⟩),
    ((hpaths _ _ hnumber).2 (.int 5)).2 ⟨.int 5, ⟨[], _, _, rfl, rfl, nofun⟩, ?_⟩⟩
  · -- the entry is null, and null lacks every member
    exact ⟨["author".toList], "name".toList, [], .null, rfl, .member nofun rfl (.here _), trivial⟩
  · exact .member nofun rfl (.here _)

end Scope

end Transclusion

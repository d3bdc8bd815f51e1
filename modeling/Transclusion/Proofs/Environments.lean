import Transclusion.Scope

/-! Scopes as environments.

What can be looked up in a scope is one environment: its layers flattened. Bindings
are compared by what they bind, in whatever order (`Bindings.Alike`), and a scope
shows an environment if its layers do so when flattened (`Scope.Shows`). A layer
binds no name twice, so that the value found first is the value that counts in
the flattened layers as well. -/
namespace Transclusion

namespace Bindings

/-- No name is bound twice. -/
def Distinct (b : Bindings) : Prop := (b.map Prod.fst).Nodup

@[simp] theorem distinct_nil : Distinct [] := List.nodup_nil

theorem distinct_singleton (name : String) (value : Value) : Distinct [(name, value)] := by
  simp [Distinct]

theorem get?_eq_none {b : Bindings} {name : String} (h : name ∉ b.map Prod.fst) : b.get? name = none := by
  induction b with
  | nil => rfl
  | cons entry rest ih =>
    obtain ⟨n, v⟩ := entry
    simp only [List.map_cons, List.mem_cons, not_or] at h
    rw [get?, List.lookup_cons, beq_false_of_ne h.1]
    exact ih h.2

theorem get?_cons (n : String) (v : Value) (b : Bindings) (name : String) :
    get? ((n, v) :: b) name = if name = n then some v else b.get? name := by
  rw [get?, List.lookup_cons]
  by_cases h : name = n
  · simp [h]
  · rw [beq_false_of_ne h, if_neg h]
    rfl

theorem mem_names_insert {b : Bindings} {name other : String} {value : Value} :
    other ∈ (b.insert name value).map Prod.fst ↔ other = name ∨ other ∈ b.map Prod.fst := by
  induction b with
  | nil => simp [insert]
  | cons entry rest ih =>
    obtain ⟨n, v⟩ := entry
    unfold insert
    split
    · next h => simp [h]
    · rw [List.map_cons, List.mem_cons, ih, List.map_cons, List.mem_cons]
      exact or_left_comm

theorem Distinct.insert {b : Bindings} (h : b.Distinct) (name : String) (value : Value) :
    (b.insert name value).Distinct := by
  induction b with
  | nil => exact distinct_singleton name value
  | cons entry rest ih =>
    obtain ⟨n, v⟩ := entry
    obtain ⟨hn, hrest⟩ := List.nodup_cons.1 h
    unfold Bindings.insert
    split
    · exact h
    · next hne =>
      refine List.nodup_cons.2 ⟨fun hmem => ?_, ih hrest⟩
      exact (mem_names_insert.1 hmem).elim hne hn

theorem Distinct.update {b : Bindings} (h : b.Distinct) (more : Bindings) : (b.update more).Distinct := by
  induction more generalizing b with
  | nil => exact h
  | cons entry rest ih => exact ih (h.insert entry.1 entry.2)

/-- What is bound last counts. -/
theorem get?_update (b : Bindings) {more : Bindings} (h : more.Distinct) (name : String) :
    (b.update more).get? name = (more.get? name).or (b.get? name) := by
  induction more generalizing b with
  | nil => rfl
  | cons entry rest ih =>
    obtain ⟨n, v⟩ := entry
    obtain ⟨hn, hrest⟩ := List.nodup_cons.1 h
    show ((b.insert n v).update rest).get? name = _
    rw [ih _ hrest, get?_insert]
    by_cases heq : name = n
    · subst heq
      rw [if_pos rfl, get?_eq_none hn, get?, List.lookup_cons_self]
      rfl
    · rw [if_neg heq]
      simp only [get?, List.lookup_cons, beq_false_of_ne heq]

/-- The same names are bound, each once and to the same value. -/
structure Alike (a b : Bindings) : Prop where
  left : a.Distinct
  right : b.Distinct
  same (name : String) : a.get? name = b.get? name

namespace Alike

variable {a b c d : Bindings}

theorem refl (h : a.Distinct) : Alike a a := ⟨h, h, fun _ => rfl⟩

theorem symm (h : Alike a b) : Alike b a := ⟨h.right, h.left, fun n => (h.same n).symm⟩

theorem trans (h : Alike a b) (h' : Alike b c) : Alike a c :=
  ⟨h.left, h'.right, fun n => (h.same n).trans (h'.same n)⟩

theorem insert (h : Alike a b) (name : String) (value : Value) :
    Alike (a.insert name value) (b.insert name value) :=
  ⟨h.left.insert .., h.right.insert .., fun n => by rw [get?_insert, get?_insert, h.same]⟩

theorem update (h : Alike a b) (h' : Alike c d) : Alike (a.update c) (b.update d) :=
  ⟨h.left.update _, h.right.update _, fun n => by
    rw [get?_update a h'.left, get?_update b h'.right, h.same, h'.same]⟩

/-- The same bindings over both, whether or not a name occurs among them twice. -/
theorem updateBoth (h : Alike a b) (more : Bindings) : Alike (a.update more) (b.update more) := by
  induction more generalizing a b with
  | nil => exact h
  | cons entry rest ih => exact ih (h.insert entry.1 entry.2)

end Alike

/-- Bindings put together from nothing are the same. -/
theorem alike_update_nil {b : Bindings} (h : b.Distinct) : Alike (update [] b) b :=
  ⟨distinct_nil.update b, h, fun n => by rw [get?_update [] h]; simp [get?]⟩

/-- Bindings with another value made of each. -/
theorem get?_map (f : Value → Value) (b : Bindings) (name : String) :
    get? (b.map fun (n, v) => (n, f v)) name = (b.get? name).map f := by
  induction b with
  | nil => rfl
  | cons entry rest ih =>
    obtain ⟨n, v⟩ := entry
    rw [List.map_cons, get?_cons, get?_cons, ih]
    split <;> rfl

theorem Distinct.map {b : Bindings} (h : b.Distinct) (f : Value → Value) :
    Distinct (b.map fun (n, v) => (n, f v)) := by
  rw [Distinct, List.map_map]
  exact h

theorem Alike.map {a b : Bindings} (h : a.Alike b) (f : Value → Value) :
    Alike (a.map fun (n, v) => (n, f v)) (b.map fun (n, v) => (n, f v)) :=
  ⟨h.left.map f, h.right.map f, fun name => by rw [get?_map, get?_map, h.same]⟩

end Bindings

namespace Scope

/-- No layer binds a name twice. -/
def Distinct (s : Scope) : Prop := ∀ layer ∈ s.layers, layer.Distinct

theorem Distinct.push {s : Scope} (h : s.Distinct) {layer : Bindings} (hl : layer.Distinct) :
    (s.push layer).Distinct := by
  intro l hmem
  rw [layers_push, List.mem_cons] at hmem
  exact hmem.elim (fun he => he ▸ hl) (h l)

theorem distinct_ofBindings {e : Bindings} (h : e.Distinct) : (ofBindings e).Distinct := by
  intro l hmem
  rw [List.mem_singleton.1 hmem]
  exact h

theorem flatten_push (s : Scope) (layer : Bindings) : (s.push layer).flatten = s.flatten.update layer := by
  simp [flatten]

theorem distinct_flatten (s : Scope) : s.flatten.Distinct := by
  unfold flatten
  generalize s.layers.reverse = layers
  suffices h : ∀ b : Bindings, b.Distinct → (layers.foldl Bindings.update b).Distinct from
    h [] Bindings.distinct_nil
  induction layers with
  | nil => exact fun _ h => h
  | cons layer rest ih => exact fun b h => ih _ (h.update layer)

/-- The value of a name in the flattened layers is the one in the innermost layer that binds it. -/
theorem get?_flatten {s : Scope} (h : s.Distinct) (name : String) : s.flatten.get? name = s.find? name := by
  unfold flatten find?
  unfold Distinct at h
  rw [List.foldl_reverse]
  generalize s.layers = layers at h
  induction layers with
  | nil => rfl
  | cons layer rest ih =>
    rw [List.foldr_cons, Bindings.get?_update _ (h layer (List.mem_cons_self ..)),
      ih fun l hl => h l (List.mem_cons_of_mem layer hl), List.findSome?_cons]
    cases layer.get? name <;> rfl

/-- A scope shows an environment: its flattened layers bind what the environment binds. -/
structure Shows (s : Scope) (e : Bindings) : Prop where
  distinct : s.Distinct
  alike : s.flatten.Alike e

theorem Distinct.shows_flatten {s : Scope} (h : s.Distinct) : s.Shows s.flatten :=
  ⟨h, .refl s.distinct_flatten⟩

/-- An environment shows itself. -/
theorem shows_ofBindings {e : Bindings} (h : e.Distinct) : (ofBindings e).Shows e :=
  ⟨distinct_ofBindings h, Bindings.alike_update_nil h⟩

namespace Shows

variable {s t : Scope} {e : Bindings}

/-- An environment is its own scope. -/
theorem ofBindings (h : s.Shows e) : (ofBindings e).Shows e := shows_ofBindings h.alike.right

theorem push (h : s.Shows e) {layer layer' : Bindings} (hl : layer.Alike layer') :
    (s.push layer).Shows (e.update layer') :=
  ⟨h.distinct.push hl.left, flatten_push s layer ▸ h.alike.update hl⟩

theorem find?_eq (h : s.Shows e) (h' : t.Shows e) (name : String) : s.find? name = t.find? name := by
  rw [← get?_flatten h.distinct, ← get?_flatten h'.distinct, h.alike.same, h'.alike.same]

/-- Dotted names, too, have the same values. -/
theorem get?_eq (h : s.Shows e) (h' : t.Shows e) (name : String) (table : Attributes) :
    s.get? name table = t.get? name table := by
  unfold get?
  simp only [h.find?_eq h']

end Shows

end Scope

end Transclusion

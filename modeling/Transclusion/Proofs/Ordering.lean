import Transclusion.Proofs.Environments

/-! Bindings in the order of their names.

What a macro takes along of the variables stands in the order of their names. Putting
bindings in that order changes nothing of what they bind (`get?_sorted`), and leaves no
trace of the order in which they stood: bindings whose names ascend are determined by
what they bind (`Ordered.ext`). So places that bind the same give a macro the same to take
along (`Alike.sorted_eq`). -/
namespace Transclusion.Bindings

theorem lt_trichotomy (m n : String) : m < n ∨ m = n ∨ n < m := by
  by_cases hmn : m < n
  · exact .inl hmn
  by_cases hnm : n < m
  · exact .inr (.inr hnm)
  exact .inr (.inl (String.le_antisymm (String.not_lt.1 hnm) (String.not_lt.1 hmn)))

theorem ne_of_lt {m n : String} (h : m < n) : m ≠ n := fun heq => String.lt_irrefl n (heq ▸ h)

theorem get?_place (name : String) (value : Value) (b : Bindings) (other : String) :
    (place name value b).get? other = if other = name then some value else b.get? other := by
  induction b with
  | nil => exact get?_cons ..
  | cons entry rest ih =>
    obtain ⟨n, v⟩ := entry
    unfold place
    split
    · next heq =>
      rw [get?_cons, get?_cons, heq]
      split <;> rfl
    · next hne =>
      split
      · exact get?_cons ..
      · rw [get?_cons, get?_cons, ih]
        by_cases hn : other = n
        · rw [if_pos hn, if_pos hn, if_neg fun hname => hne (hname.symm.trans hn)]
        · rw [if_neg hn, if_neg hn]

/-- Putting bindings in order keeps what they bind; of a name that occurs twice, the first counts. -/
@[simp] theorem get?_sorted (b : Bindings) (name : String) : b.sorted.get? name = b.get? name := by
  induction b with
  | nil => rfl
  | cons entry rest ih =>
    show (place entry.1 entry.2 (sorted rest)).get? name = _
    rw [get?_place, get?_cons, ih]

/-- The names ascend. -/
def Ordered (b : Bindings) : Prop := b.Pairwise fun x y => x.1 < y.1

theorem mem_names_place {name other : String} {value : Value} {b : Bindings}
    (h : other ∈ (place name value b).map Prod.fst) : other = name ∨ other ∈ b.map Prod.fst := by
  induction b with
  | nil => simpa [place] using h
  | cons entry rest ih =>
    obtain ⟨n, v⟩ := entry
    unfold place at h
    split at h
    · exact .inr h
    · split at h
      · exact List.mem_cons.1 h
      · rcases List.mem_cons.1 h with rfl | h
        · exact .inr (List.mem_cons_self ..)
        · exact (ih h).imp_right (List.mem_cons_of_mem n)

theorem Ordered.place {b : Bindings} (h : b.Ordered) (name : String) (value : Value) :
    (b.place name value).Ordered := by
  induction b with
  | nil => exact List.pairwise_singleton ..
  | cons entry rest ih =>
    obtain ⟨n, v⟩ := entry
    obtain ⟨hn, hrest⟩ := List.pairwise_cons.1 h
    unfold Bindings.place
    split
    · exact List.pairwise_cons.2 ⟨hn, hrest⟩
    · next hne =>
      split
      · next hlt =>
        refine List.pairwise_cons.2 ⟨fun other hother => ?_, h⟩
        rcases List.mem_cons.1 hother with rfl | hother
        · exact hlt
        · exact String.lt_trans hlt (hn other hother)
      · next hlt =>
        refine List.pairwise_cons.2 ⟨fun other hother => ?_, ih hrest⟩
        rcases mem_names_place (List.mem_map_of_mem hother) with hname | hmem
        · have hlt : n < name := ((lt_trichotomy name n).resolve_left hlt).resolve_left hne
          exact hname ▸ hlt
        · obtain ⟨entry, hentry, hfst⟩ := List.mem_map.1 hmem
          exact hfst ▸ hn entry hentry

theorem ordered_sorted (b : Bindings) : b.sorted.Ordered := by
  induction b with
  | nil => exact List.Pairwise.nil
  | cons entry rest ih => exact Ordered.place ih entry.1 entry.2

theorem Ordered.distinct {b : Bindings} (h : b.Ordered) : b.Distinct :=
  List.pairwise_map.2 (h.imp fun hlt => ne_of_lt hlt)

/-- Bindings whose names ascend are determined by what they bind. -/
theorem Ordered.ext {a b : Bindings} (ha : a.Ordered) (hb : b.Ordered) (h : ∀ name, a.get? name = b.get? name) :
    a = b := by
  induction a generalizing b with
  | nil =>
    cases b with
    | nil => rfl
    | cons entry rest =>
      have hfirst := h entry.1
      rw [get?_cons, if_pos rfl] at hfirst
      cases hfirst
  | cons entry rest ih =>
    obtain ⟨n, v⟩ := entry
    cases b with
    | nil =>
      have hfirst := h n
      rw [get?_cons, if_pos rfl] at hfirst
      cases hfirst
    | cons entry' rest' =>
      obtain ⟨n', v'⟩ := entry'
      obtain ⟨hn, hrest⟩ := List.pairwise_cons.1 ha
      obtain ⟨hn', hrest'⟩ := List.pairwise_cons.1 hb
      have hnone {m : String} {c : Bindings} (hlt : ∀ x ∈ c, m < x.1) : c.get? m = none :=
        get?_eq_none fun hmem => by
          obtain ⟨x, hx, hfst⟩ := List.mem_map.1 hmem
          exact absurd (hfst ▸ hlt x hx) (String.lt_irrefl m)
      -- The least name on either side is bound on the other, so it is the least there.
      have hname : n = n' := by
        rcases lt_trichotomy n n' with hlt | heq | hlt
        · have hleast := h n
          rw [get?_cons, if_pos rfl, get?_cons, if_neg (ne_of_lt hlt),
            hnone fun x hx => String.lt_trans hlt (hn' x hx)] at hleast
          cases hleast
        · exact heq
        · have hleast := h n'
          rw [get?_cons, if_neg (ne_of_lt hlt), get?_cons, if_pos rfl,
            hnone fun x hx => String.lt_trans hlt (hn x hx)] at hleast
          cases hleast
      subst hname
      have hvalue := h n
      simp only [get?_cons, if_true, Option.some.injEq] at hvalue
      rw [hvalue, ih hrest hrest' fun name => ?_]
      by_cases heq : name = n
      · rw [heq, hnone hn, hnone hn']
      · have hrest := h name
        rwa [get?_cons, if_neg heq, get?_cons, if_neg heq] at hrest

/-- What binds the same is the same when put in order. -/
theorem Alike.sorted_eq {a b : Bindings} (h : a.Alike b) : a.sorted = b.sorted :=
  (ordered_sorted a).ext (ordered_sorted b) fun name => by rw [get?_sorted, get?_sorted, h.same]

end Transclusion.Bindings

import Transclusion.Proofs.Markup

/-! Markers of templated references.

A marker is read off the start of a text, and what stands behind it matters only as
far as the marker could take more of it: what comes next must be none of the
characters that cling to a marker, and once there is a bar, no closing braces may
come later on. Any other text that gives no more than that may stand there instead
(`Yields`), for one marker (`marker?_swap`), for a row of them (`Markers.swap`) and
so for a templated reference (`cutTemplated?_swap`). -/
namespace Transclusion.Directive

open Text (isBlank)

/-! ### Closing braces -/

/-- The last closing braces are behind the first character, or else begin with it. -/
theorem cutAfterLastBraces?_cons (c : Char) (cs : List Char) :
    cutAfterLastBraces? (c :: cs) =
      match cutAfterLastBraces? cs with
      | some (before, after) => some (c :: before, after)
      | none => if c = '}' ∧ cs.head? = some '}' then some (['}', '}'], cs.tail) else none := by
  rw [cutAfterLastBraces?.eq_def]
  dsimp only
  cases cutAfterLastBraces? cs with
  | some cut => rfl
  | none =>
    dsimp only
    split
    · rfl
    · next hne =>
      refine (if_neg fun ⟨hc, hhead⟩ => ?_).symm
      obtain ⟨d, ds, rfl⟩ : ∃ d ds, cs = d :: ds := by cases cs <;> simp at hhead ⊢
      exact hne ds hc (by rw [Option.some.inj hhead])

/-- Closing braces stand somewhere in the text. -/
def HasBraces (cs : List Char) : Prop := cutAfterLastBraces? cs ≠ none

theorem not_hasBraces_nil : ¬HasBraces [] := fun h => h rfl

theorem hasBraces_cons {c : Char} {cs : List Char} :
    HasBraces (c :: cs) ↔ HasBraces cs ∨ c = '}' ∧ cs.head? = some '}' := by
  unfold HasBraces
  rw [cutAfterLastBraces?_cons]
  cases cutAfterLastBraces? cs with
  | some cut => simp
  | none => by_cases h : c = '}' ∧ cs.head? = some '}' <;> simp [h]

theorem HasBraces.append_left {cs : List Char} (h : HasBraces cs) (before : List Char) :
    HasBraces (before ++ cs) := by
  induction before with
  | nil => exact h
  | cons c before ih => exact hasBraces_cons.2 (.inl ih)

theorem HasBraces.append_right {cs : List Char} (h : HasBraces cs) (after : List Char) :
    HasBraces (cs ++ after) := by
  induction cs with
  | nil => exact absurd h not_hasBraces_nil
  | cons c cs ih =>
    refine hasBraces_cons.2 ((hasBraces_cons.1 h).imp ih fun ⟨hc, hhead⟩ => ⟨hc, ?_⟩)
    show (cs ++ after).head? = _
    rw [List.head?_append, hhead]
    rfl

/-- Behind characters other than braces there are the closing braces that there are without them. -/
theorem hasBraces_append {run cs : List Char} (hrun : ∀ c ∈ run, c ≠ '}') :
    HasBraces (run ++ cs) ↔ HasBraces cs := by
  induction run with
  | nil => rfl
  | cons c run ih =>
    rw [List.cons_append, hasBraces_cons, ih fun d hd => hrun d (List.mem_cons_of_mem c hd)]
    exact or_iff_left fun h => hrun c (List.mem_cons_self ..) h.1

/-- Nothing behind the last closing braces is closing braces, or makes them with the last of these. -/
theorem cutAfterLastBraces?_last {cs before after : List Char}
    (h : cutAfterLastBraces? cs = some (before, after)) : ¬HasBraces ('}' :: after) := by
  induction cs generalizing before with
  | nil => cases h
  | cons c cs ih =>
    rw [cutAfterLastBraces?_cons] at h
    cases hcut : cutAfterLastBraces? cs with
    | some cut =>
      rw [hcut] at h
      obtain ⟨-, rfl⟩ := Prod.mk.inj (Option.some.inj h)
      exact ih hcut
    | none =>
      simp only [hcut, Option.ite_none_right_eq_some, Option.some.injEq, Prod.mk.injEq] at h
      obtain ⟨⟨-, hhead⟩, -, rfl⟩ := h
      obtain ⟨after, rfl⟩ := List.head?_eq_some_iff.1 hhead
      exact fun hbraces => hbraces hcut

/-- Another text may stand behind the last closing braces, if it gives no others. -/
theorem cutAfterLastBraces?_swap {cs before after : List Char}
    (h : cutAfterLastBraces? cs = some (before, after)) {after' : List Char} (h' : ¬HasBraces ('}' :: after')) :
    cutAfterLastBraces? (before ++ after') = some (before, after') := by
  induction cs generalizing before with
  | nil => cases h
  | cons c cs ih =>
    rw [cutAfterLastBraces?_cons] at h
    cases hcut : cutAfterLastBraces? cs with
    | some cut =>
      rw [hcut] at h
      obtain ⟨rfl, rfl⟩ := Prod.mk.inj (Option.some.inj h)
      rw [List.cons_append, cutAfterLastBraces?_cons, ih hcut]
    | none =>
      simp only [hcut, Option.ite_none_right_eq_some, Option.some.injEq, Prod.mk.injEq] at h
      obtain ⟨-, rfl, -⟩ := h
      have hnone : cutAfterLastBraces? ('}' :: after') = none := by simpa [HasBraces] using h'
      rw [List.cons_append, cutAfterLastBraces?_cons, List.singleton_append, hnone]
      rfl

/-! ### Markers -/

/-- A text that may stand behind markers in place of another one: its first character is none that they would
take, and it holds no closing braces unless the other does. -/
structure Yields (rest rest' : List Char) : Prop where
  head : ∀ c, rest'.head? = some c → isTailChar c = false ∧ c ≠ '}'
  braces : HasBraces rest' → HasBraces rest

theorem ne_brace_of_isTailChar {c : Char} (h : isTailChar c = true) : c ≠ '}' := by
  simp only [isTailChar, Bool.and_eq_true, bne_iff_ne] at h
  exact h.2

theorem closing?_head {cs close rest : List Char} (h : closing? cs = some (close, rest)) :
    ∃ c more, close = c :: more ∧ (c = '}' ∨ c = '|') := by
  unfold closing? at h
  split at h
  · obtain ⟨rfl, -⟩ := Prod.mk.inj (Option.some.inj h)
    exact ⟨'}', ['}'], rfl, .inl rfl⟩
  · obtain ⟨⟨before, after⟩, -, hcut⟩ := Option.map_eq_some_iff.1 h
    obtain ⟨rfl, -⟩ := Prod.mk.inj hcut
    exact ⟨'|', before, rfl, .inr rfl⟩
  · cases h

theorem closing?_swap {cs close tail rest rest' : List Char} (h : closing? cs = some (close, tail ++ rest))
    (htail : ∀ c ∈ tail, isTailChar c = true) (hyields : Yields rest rest') :
    closing? (close ++ (tail ++ rest')) = some (close, tail ++ rest') := by
  have hrun : ∀ c ∈ tail, c ≠ '}' := fun c hc => ne_brace_of_isTailChar (htail c hc)
  unfold closing? at h
  split at h
  · obtain ⟨rfl, -⟩ := Prod.mk.inj (Option.some.inj h)
    rfl
  · obtain ⟨⟨before, after⟩, hcut, heq⟩ := Option.map_eq_some_iff.1 h
    obtain ⟨rfl, rfl⟩ := Prod.mk.inj heq
    have hlast := cutAfterLastBraces?_last hcut
    rw [hasBraces_cons, not_or, hasBraces_append hrun] at hlast
    have hlast' : ¬HasBraces ('}' :: (tail ++ rest')) := by
      rw [hasBraces_cons, hasBraces_append hrun]
      rintro (hbraces | ⟨-, hhead⟩)
      · exact hlast.1 (hyields.braces hbraces)
      · cases tail with
        | nil => exact (hyields.head _ hhead).2 rfl
        | cons c tail => exact hrun c (List.mem_cons_self ..) (Option.some.inj hhead)
    rw [List.cons_append, closing?, cutAfterLastBraces?_swap hcut hlast']
    rfl
  · cases h

theorem not_isNameChar_of_isBlank {c : Char} (h : isBlank c = true) : isNameChar c = false := by
  rw [← Bool.not_eq_true]
  intro hname
  have hbare : Assignment.isBareChar c = true := by
    simp only [isNameChar, Assignment.isBareChar, Bool.or_eq_true, beq_iff_eq] at hname ⊢
    exact hname
  rw [not_isBlank_of_isBareChar hbare] at h
  exact Bool.false_ne_true h

/-- A marker in parts, with what follows it: braces, a name between blanks, a closing, and what clings to it. -/
structure Marker (blanks name more close tail rest : List Char) : Prop where
  blanks : ∀ c ∈ blanks, isBlank c = true
  name_ne : name ≠ []
  name : ∀ c ∈ name, isNameChar c = true
  more : ∀ c ∈ more, isBlank c = true
  close : closing? (close ++ (tail ++ rest)) = some (close, tail ++ rest)
  tail : ∀ c ∈ tail, isTailChar c = true
  rest : ∀ c, rest.head? = some c → isTailChar c = false

theorem marker?_eq_some {cs marker rest : List Char} (h : marker? cs = some (marker, rest)) :
    ∃ blanks name more close tail, Marker blanks name more close tail rest ∧
      marker = ['{', '{'] ++ blanks ++ name ++ more ++ close ++ tail := by
  unfold marker? at h
  split at h
  · next cs =>
    simp only at h
    split at h
    · cases h
    · next hname =>
      obtain ⟨⟨close, behind⟩, hclose, heq⟩ := Option.map_eq_some_iff.1 h
      obtain ⟨rfl, rfl⟩ := Prod.mk.inj heq
      refine ⟨_, _, _, _, _, ⟨fun c => List.mem_takeWhile_imp, hname, fun c => List.mem_takeWhile_imp,
        fun c => List.mem_takeWhile_imp, ?_, fun c => List.mem_takeWhile_imp, fun c hc => ?_⟩, rfl⟩
      · rw [List.takeWhile_append_dropWhile, ← closing?_eq hclose]
        exact hclose
      · have hhead := List.head?_dropWhile_not isTailChar behind
        rw [hc] at hhead
        simpa using hhead
  · cases h

theorem Marker.marker?_eq {blanks name more close tail rest : List Char}
    (h : Marker blanks name more close tail rest) :
    marker? (['{', '{'] ++ blanks ++ name ++ more ++ close ++ tail ++ rest) =
      some (['{', '{'] ++ blanks ++ name ++ more ++ close ++ tail, rest) := by
  obtain ⟨first, close', rfl, hfirst⟩ := closing?_head h.close
  have hfirst : isBlank first = false ∧ isNameChar first = false := by
    rcases hfirst with rfl | rfl <;> decide
  have htext : ['{', '{'] ++ blanks ++ name ++ more ++ first :: close' ++ tail ++ rest =
      '{' :: '{' :: (blanks ++ (name ++ (more ++ (first :: close' ++ (tail ++ rest))))) := by simp
  obtain ⟨hblanks, hname⟩ := span_run (name ++ (more ++ (first :: close' ++ (tail ++ rest)))) h.blanks <| by
    intro c hc
    obtain ⟨d, ds, hd⟩ := List.exists_cons_of_ne_nil h.name_ne
    obtain rfl : d = c := by simpa [hd] using hc
    have hd := h.name d (by rw [hd]; exact List.mem_cons_self ..)
    rw [← Bool.not_eq_true]
    exact fun hblank => Bool.false_ne_true ((not_isNameChar_of_isBlank hblank).symm.trans hd)
  obtain ⟨hname', hmore⟩ := span_run (more ++ (first :: close' ++ (tail ++ rest))) h.name <| by
    intro c hc
    cases more with
    | nil => exact Option.some.inj hc ▸ hfirst.2
    | cons d more => exact Option.some.inj hc ▸ not_isNameChar_of_isBlank (h.more d (List.mem_cons_self ..))
  obtain ⟨hmore', hclose⟩ := span_run (first :: close' ++ (tail ++ rest)) h.more <| by
    intro c hc
    exact Option.some.inj hc ▸ hfirst.1
  obtain ⟨htail, hrest⟩ := span_run rest h.tail h.rest
  rw [htext, marker?]
  simp only [hblanks, hname, hname', hmore, hmore', hclose, h.close, h.name_ne, if_false, Option.map_some, htail,
    hrest]

/-- A marker is found before any text that it leaves alone. -/
theorem marker?_swap {cs marker rest rest' : List Char} (h : marker? cs = some (marker, rest))
    (hyields : Yields rest rest') : marker? (marker ++ rest') = some (marker, rest') := by
  obtain ⟨blanks, name, more, close, tail, hparts, rfl⟩ := marker?_eq_some h
  have hparts' : Marker blanks name more close tail rest' :=
    { hparts with
      close := closing?_swap hparts.close hparts.tail hyields
      rest := fun c hc => (hyields.head c hc).1 }
  exact hparts'.marker?_eq

theorem hasBraces_of_marker? {cs marker rest : List Char} (h : marker? cs = some (marker, rest)) : HasBraces cs := by
  obtain ⟨blanks, name, more, close, tail, hparts, rfl⟩ := marker?_eq_some h
  have hclose : HasBraces (close ++ (tail ++ rest)) := by
    have hfound := hparts.close
    unfold closing? at hfound
    split at hfound
    · next heq => exact heq ▸ hasBraces_cons.2 (.inr ⟨rfl, rfl⟩)
    · next behind heq =>
      obtain ⟨cut, hcut, -⟩ := Option.map_eq_some_iff.1 hfound
      exact heq ▸ hasBraces_cons.2 (.inl (by simp [HasBraces, hcut]))
    · cases hfound
  rw [(marker?_eq h).1]
  simpa using hclose.append_left (['{', '{'] ++ blanks ++ name ++ more)

/-- A text ends with its last closing braces. -/
theorem getLast?_cutAfterLastBraces? {cs before after : List Char}
    (h : cutAfterLastBraces? cs = some (before, after)) : before.getLast? = some '}' := by
  induction cs generalizing before with
  | nil => cases h
  | cons c cs ih =>
    rw [cutAfterLastBraces?_cons] at h
    cases hcut : cutAfterLastBraces? cs with
    | some cut =>
      rw [hcut] at h
      obtain ⟨rfl, rfl⟩ := Prod.mk.inj (Option.some.inj h)
      rw [List.getLast?_cons, ih hcut]
      rfl
    | none =>
      simp only [hcut, Option.ite_none_right_eq_some, Option.some.injEq, Prod.mk.injEq] at h
      obtain ⟨-, rfl, -⟩ := h
      rfl

theorem getLast?_closing? {cs close rest : List Char} (h : closing? cs = some (close, rest)) :
    close.getLast? = some '}' := by
  unfold closing? at h
  split at h
  · obtain ⟨rfl, -⟩ := Prod.mk.inj (Option.some.inj h)
    rfl
  · obtain ⟨⟨before, after⟩, hcut, heq⟩ := Option.map_eq_some_iff.1 h
    obtain ⟨rfl, -⟩ := Prod.mk.inj heq
    rw [List.getLast?_cons, getLast?_cutAfterLastBraces? hcut]
    rfl
  · cases h

/-- A marker begins with a brace, and its last character is no blank. -/
theorem marker?_ends {cs marker rest : List Char} (h : marker? cs = some (marker, rest)) :
    marker.head? = some '{' ∧ ∃ c, marker.getLast? = some c ∧ isBlank c = false := by
  obtain ⟨blanks, name, more, close, tail, hparts, rfl⟩ := marker?_eq_some h
  refine ⟨rfl, ?_⟩
  rw [List.getLast?_append]
  cases htail : tail.getLast? with
  | some c =>
    have hc := hparts.tail c (List.mem_of_getLast? htail)
    simp only [isTailChar, Bool.and_eq_true, Bool.not_eq_true'] at hc
    exact ⟨c, rfl, hc.1.1⟩
  | none =>
    rw [List.getLast?_append, getLast?_closing? hparts.close]
    exact ⟨'}', rfl, by decide⟩

/-- Markers, one behind the other, and what follows them: no further one begins there. -/
inductive Markers : List Char → List Char → Prop
  | none {rest : List Char} : marker? rest = Option.none → Markers [] rest
  | more {marker found rest : List Char} : marker? (marker ++ (found ++ rest)) = some (marker, found ++ rest) →
    Markers found rest → Markers (marker ++ found) rest

theorem markers_of_eq {cs found rest : List Char} (h : markers cs = (found, rest)) :
    Markers found rest ∧ cs = found ++ rest := by
  fun_induction markers cs generalizing found with
  | case1 cs hnone =>
    obtain ⟨rfl, rfl⟩ := Prod.mk.inj h
    exact ⟨.none hnone, rfl⟩
  | case2 cs marker behind hmarker _ more behind' hmore ih =>
    obtain ⟨rfl, rfl⟩ := Prod.mk.inj h
    obtain ⟨hmarkers, rfl⟩ := ih hmore
    have heq := (marker?_eq hmarker).1
    rw [heq] at hmarker
    exact ⟨.more hmarker hmarkers, by rw [heq, List.append_assoc]⟩

theorem Markers.eq {found rest : List Char} (h : Markers found rest) : markers (found ++ rest) = (found, rest) := by
  induction h with
  | none hnone =>
    rw [List.nil_append, markers]
    split
    · rfl
    · next hsome =>
      rw [hnone] at hsome
      cases hsome
  | @more marker found rest hmarker _ ih =>
    rw [markers, List.append_assoc]
    split
    · next hnone =>
      rw [hmarker] at hnone
      cases hnone
    · next hsome =>
      obtain ⟨rfl, rfl⟩ := Prod.mk.inj (Option.some.inj (hmarker.symm.trans hsome))
      rw [ih]

/-- Markers begin with a brace, and their last character is no blank. -/
theorem Markers.ends {found rest : List Char} (h : Markers found rest) (hne : found ≠ []) :
    found.head? = some '{' ∧ ∃ c, found.getLast? = some c ∧ isBlank c = false := by
  induction h with
  | none _ => exact absurd rfl hne
  | @more marker found rest hmarker _ ih =>
    obtain ⟨hhead, hlast⟩ := marker?_ends hmarker
    refine ⟨by rw [List.head?_append, hhead]; rfl, ?_⟩
    by_cases hfound : found = []
    · rwa [hfound, List.append_nil]
    · obtain ⟨c, hc, hblank⟩ := (ih hfound).2
      exact ⟨c, by rw [List.getLast?_append, hc]; rfl, hblank⟩

/-- Markers are found before any text that they leave alone. -/
theorem Markers.swap {found rest rest' : List Char} (h : Markers found rest) (hyields : Yields rest rest')
    (hnone : marker? rest' = Option.none) : Markers found rest' := by
  induction h with
  | none _ => exact .none hnone
  | @more marker found rest hmarker hfound ih =>
    refine .more (marker?_swap hmarker ?_) (ih hyields)
    by_cases hne : found = []
    · rw [hne]
      exact hyields
    · -- What follows begins with the next marker, whose closing braces stay.
      obtain ⟨c, more, hcons⟩ := List.exists_cons_of_ne_nil hne
      obtain rfl : c = '{' := by simpa [hcons] using (hfound.ends hne).1
      refine ⟨fun c hc => ?_, fun _ => ?_⟩
      · obtain rfl : '{' = c := by simpa [hcons] using hc
        decide
      · cases hfound with
        | none _ => exact absurd rfl hne
        | more hnext _ => rw [List.append_assoc]; exact hasBraces_of_marker? hnext

/-! ### Templated references -/

theorem cutTemplated?_eq_some {cs reference rest : List Char} :
    cutTemplated? cs = some (reference, rest) ↔ ∃ lead found, reference = lead ++ found ∧ cs = reference ++ rest ∧
      (∀ c ∈ lead, c ≠ '{') ∧ found ≠ [] ∧ Markers found rest := by
  simp only [cutTemplated?]
  constructor
  · intro h
    split at h
    · cases h
    · next hne =>
      obtain ⟨rfl, rfl⟩ := Prod.mk.inj (Option.some.inj h)
      obtain ⟨hmarkers, heq⟩ := markers_of_eq (Prod.eta (markers (cs.dropWhile (· ≠ '{')))).symm
      refine ⟨_, _, rfl, ?_, fun c hc => by simpa using List.mem_takeWhile_imp hc, hne, hmarkers⟩
      rw [List.append_assoc, ← heq, List.takeWhile_append_dropWhile]
  · rintro ⟨lead, found, rfl, rfl, hlead, hne, hmarkers⟩
    obtain ⟨htake, hdrop⟩ := @span_run (· ≠ '{') _ (found ++ rest) (fun c hc => decide_eq_true (hlead c hc)) <| by
      intro c hc
      rw [List.head?_append, (hmarkers.ends hne).1] at hc
      exact decide_eq_false (not_not.2 (Option.some.inj hc).symm)
    rw [List.append_assoc, htake, hdrop, hmarkers.eq]
    exact if_neg hne

theorem cutTemplated?_swap {cs reference rest rest' : List Char} (h : cutTemplated? cs = some (reference, rest))
    (hyields : Yields rest rest') (hnone : marker? rest' = none) :
    cutTemplated? (reference ++ rest') = some (reference, rest') := by
  obtain ⟨lead, found, rfl, -, hlead, hne, hmarkers⟩ := cutTemplated?_eq_some.1 h
  exact cutTemplated?_eq_some.2 ⟨lead, found, rfl, rfl, hlead, hne, hmarkers.swap hyields hnone⟩

end Transclusion.Directive

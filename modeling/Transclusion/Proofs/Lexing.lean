import Transclusion.Proofs.Tags

/-! What the lexer takes.

The first place where something is found is the one before which it is found
nowhere (`firstFound?_eq_some_iff`). A closing mark of the lexer is one of the scan
and perhaps blanks behind it (`signedMark?_of_closeMark?`). -/
namespace Transclusion.Template

variable {o : Options} {cs taken rest : List Char}

/-! ### First places -/

section
variable {α : Type} {find : List Char → Option α} {a : α}

theorem firstFound?_here (h : find cs = some a) : firstFound? find cs = some ([], a) := by
  unfold firstFound?
  rw [h]

theorem firstFound?_cons {c : Char} (h : find (c :: cs) = none) :
    firstFound? find (c :: cs) = (firstFound? find cs).map fun (before, a) => (c :: before, a) := by
  conv => lhs; unfold firstFound?
  simp only [h]

/-- At whose places nothing is found, that stands before what is found first. -/
theorem firstFound?_append {run before : List Char} (hnone : ∀ s, s <:+ run → s ≠ [] → find (s ++ cs) = none)
    (h : firstFound? find cs = some (before, a)) : firstFound? find (run ++ cs) = some (run ++ before, a) := by
  induction run with
  | nil => exact h
  | cons c run ih =>
    have hrest := ih fun s hs => hnone s (hs.trans (List.suffix_cons ..))
    have hhere : find (c :: (run ++ cs)) = none := hnone (c :: run) (List.suffix_refl _) (by simp)
    rw [List.cons_append, firstFound?_cons hhere, hrest]
    rfl

/-- What stands before the first find, and behind it. -/
theorem firstFound?_eq {before : List Char} (h : firstFound? find cs = some (before, a)) :
    ∃ more, cs = before ++ more ∧ find more = some a ∧ ∀ s, s <:+ before → s ≠ [] → find (s ++ more) = none := by
  have hhere {cs before : List Char} {b : α} (hfind : find cs = some b)
      (h : firstFound? find cs = some (before, a)) : ∃ more, cs = before ++ more ∧ find more = some a ∧
        ∀ s, s <:+ before → s ≠ [] → find (s ++ more) = none := by
    rw [firstFound?_here hfind] at h
    obtain ⟨rfl, rfl⟩ := Prod.mk.inj (Option.some.inj h)
    exact ⟨cs, rfl, hfind, fun s hs hne => absurd (List.suffix_nil.1 hs) hne⟩
  induction cs generalizing before with
  | nil =>
    cases hfind : find [] with
    | none => simp [firstFound?, hfind] at h
    | some b => exact hhere hfind h
  | cons c cs ih =>
    cases hfind : find (c :: cs) with
    | some b => exact hhere hfind h
    | none =>
      rw [firstFound?_cons hfind] at h
      obtain ⟨⟨before', a'⟩, hfound, h⟩ := Option.map_eq_some_iff.1 h
      obtain ⟨rfl, rfl⟩ := Prod.mk.inj h
      obtain ⟨more, rfl, hmore, hnone⟩ := ih hfound
      refine ⟨more, rfl, hmore, fun s hs hne => ?_⟩
      rcases List.suffix_cons_iff.1 hs with rfl | hs
      · exact hfind
      · exact hnone s hs hne

/-- Something is found first behind a text if at no place of this text anything is found. -/
theorem firstFound?_eq_some_iff {before : List Char} :
    firstFound? find cs = some (before, a) ↔ ∃ more, cs = before ++ more ∧ find more = some a ∧
      ∀ s, s <:+ before → s ≠ [] → find (s ++ more) = none := by
  constructor
  · exact firstFound?_eq
  · rintro ⟨more, rfl, hfound, hnone⟩
    have hfirst := firstFound?_append hnone (firstFound?_here hfound)
    rw [List.append_nil] at hfirst
    exact hfirst

theorem firstFound?_eq_none_iff : firstFound? find cs = none ↔ ∀ s, s <:+ cs → find s = none := by
  induction cs with
  | nil =>
    unfold firstFound?
    cases hfind : find [] <;> simp [hfind]
  | cons c cs ih =>
    cases hfind : find (c :: cs) with
    | some a => simp [firstFound?_here hfind, List.suffix_cons_iff, hfind]
    | none => simp [firstFound?_cons hfind, List.suffix_cons_iff, hfind, ih]

end

theorem firstTaken?_eq_firstFound? (reader : List Char → Taken) (cs : List Char) :
    firstTaken? reader cs = firstFound? reader cs := by
  induction cs with
  | nil =>
    unfold firstTaken? firstFound?
    cases reader [] <;> rfl
  | cons c cs ih =>
    unfold firstTaken?
    cases h : reader (c :: cs) with
    | some found => exact (firstFound?_here h).symm
    | none =>
      rw [firstFound?_cons h, ← ih]

/-- The first place where a reader takes something that it leaves the rest behind. -/
theorem firstTaken?_eq {reader : List Char → Taken} {before : List Char}
    (hreader : ∀ cs taken rest, reader cs = some (taken, rest) → cs = taken ++ rest)
    (h : firstTaken? reader cs = some (before, taken, rest)) :
    cs = before ++ taken ++ rest ∧ reader (taken ++ rest) = some (taken, rest) := by
  rw [firstTaken?_eq_firstFound?] at h
  obtain ⟨more, rfl, htaken, -⟩ := firstFound?_eq h
  obtain rfl := hreader _ _ _ htaken
  exact ⟨(List.append_assoc ..).symm, htaken⟩

/-! ### Marks -/

theorem mark?_append (mark rest : List Char) : mark? mark (mark ++ rest) = some (mark, rest) := by
  simp [mark?]

theorem signCuts_append {sign : List Char} (hsign : sign ∈ [[], ['-'], ['+']]) (rest : List Char) :
    (sign, rest) ∈ signCuts (sign ++ rest) := by
  rcases sign_cases hsign with rfl | rfl | rfl
  · unfold signCuts
    split
    · next more hcut =>
      have hsame := (cutSign_eq rest).1
      rw [List.nil_append] at hcut
      rw [hcut] at hsame
      rw [hsame]
      exact List.mem_singleton_self _
    · simp
  · exact List.mem_cons_self ..
  · exact List.mem_cons_self ..

theorem blankCuts_append {blanks : List Char} (hblanks : ∀ c ∈ blanks, Text.isBlank c = true) (rest : List Char) :
    (blanks, rest) ∈ blankCuts (blanks ++ rest) := by
  induction blanks with
  | nil =>
    rw [List.nil_append]
    unfold blankCuts
    split
    · simp
    · split <;> simp
  | cons c blanks ih =>
    have hrest := ih fun d hd => hblanks d (List.mem_cons_of_mem _ hd)
    rw [List.cons_append, blankCuts, if_pos (hblanks c (List.mem_cons_self ..))]
    exact List.mem_append_left _ (List.mem_map.2 ⟨_, hrest, rfl⟩)

/-- What ends a run of a class begins with a character of the class. -/
theorem exists_cons_of_suffix {P : Char → Prop} {run s : List Char} (hrun : ∀ c ∈ run, P c) (hs : s <:+ run)
    (hne : s ≠ []) : ∃ c more, s = c :: more ∧ P c := by
  obtain ⟨c, more, rfl⟩ := List.exists_cons_of_ne_nil hne
  exact ⟨c, more, rfl, hrun c (hs.mem (List.mem_cons_self ..))⟩

/-- Only the longest run of blanks counts for what takes none at the start of the rest. -/
theorem filterMap_blankCuts {α : Type} {f : List Char × List Char → Option α}
    (hf : ∀ blanks c rest, Text.isBlank c = true → f (blanks, c :: rest) = none) (cs : List Char) :
    (blankCuts cs).filterMap f = (f (cs.takeWhile Text.isBlank, cs.dropWhile Text.isBlank)).toList := by
  induction cs generalizing f with
  | nil => cases h : f ([], []) <;> simp [blankCuts, h]
  | cons c cs ih =>
    unfold blankCuts
    split
    · next hblank =>
      have hlast : [([], c :: cs)].filterMap f = [] := List.filterMap_cons_none (hf _ _ _ hblank)
      have hlonger := ih (f := f ∘ fun cut => (c :: cut.1, cut.2)) fun blanks d rest hd => hf _ _ _ hd
      rw [List.filterMap_append, List.filterMap_map, hlonger, hlast, List.append_nil,
        List.takeWhile_cons_of_pos hblank, List.dropWhile_cons_of_pos hblank]
      rfl
    · next hblank => cases h : f ([], c :: cs) <;> simp [h, hblank]

theorem findSome?_blankCuts {α : Type} {f : List Char × List Char → Option α}
    (hf : ∀ blanks c rest, Text.isBlank c = true → f (blanks, c :: rest) = none) (cs : List Char) :
    (blankCuts cs).findSome? f = f (cs.takeWhile Text.isBlank, cs.dropWhile Text.isBlank) := by
  rw [← List.head?_filterMap, filterMap_blankCuts hf]
  cases f (cs.takeWhile Text.isBlank, cs.dropWhile Text.isBlank) <;> rfl

theorem mark?_cons {m c : Char} {mark : List Char} (h : mark? (m :: mark) (c :: cs) = some (taken, rest)) : c = m :=
  (List.cons.inj (mark?_eq h).2).1

section
variable {form : Closing} {m : Char} {mark : List Char} (hm : isSign m = false)
include hm

/-- A mark without a sign is one that may have a sign before it. -/
theorem signedMark?_of_mark? (h : mark? (m :: mark) cs = some (taken, rest)) :
    signedMark? (m :: mark) cs = some (taken, rest) := by
  cases cs with
  | nil => exact h
  | cons c cs =>
    obtain rfl := mark?_cons h
    rw [signedMark?, hm, Bool.false_and, if_neg Bool.false_ne_true, h]

/-- Where the lexer finds a closing mark the scan finds it, without the blanks that the lexer takes behind it. -/
theorem signedMark?_of_closeMark? (h : closeMark? form (m :: mark) cs = some (taken, rest)) :
    ∃ close eaten, signedMark? (m :: mark) cs = some (close, eaten ++ rest) ∧ taken = close ++ eaten ∧
      ∀ c ∈ eaten, Text.isBlank c = true := by
  -- The mark alone, and the line end that is taken with it.
  have halone : (mark? (m :: mark) cs).map form.withLineEnd = some (taken, rest) →
      ∃ close eaten, signedMark? (m :: mark) cs = some (close, eaten ++ rest) ∧ taken = close ++ eaten ∧
        ∀ c ∈ eaten, Text.isBlank c = true := by
    intro h
    obtain ⟨⟨close, behind⟩, hmark, hfound⟩ := Option.map_eq_some_iff.1 h
    obtain ⟨eaten, after, hsplit, rfl, hblank⟩ := form.withLineEnd_eq close behind
    obtain ⟨rfl, rfl⟩ := Prod.mk.inj (hsplit.symm.trans hfound)
    exact ⟨close, eaten, signedMark?_of_mark? hm hmark, rfl, hblank⟩
  cases cs with
  | nil =>
    rw [closeMark?_nil] at h
    exact halone h
  | cons c more =>
    rw [closeMark?_cons] at h
    split at h
    · next hminus =>
      obtain ⟨rfl, hp⟩ := hminus
      obtain ⟨rfl, rfl⟩ := Prod.mk.inj (Option.some.inj h)
      refine ⟨'-' :: m :: mark, (more.drop (m :: mark).length).takeWhile Text.isBlank, ?_, rfl, fun c hc => ?_⟩
      · rw [List.takeWhile_append_dropWhile, signedMark?, hp]
        rfl
      · exact List.mem_takeWhile_imp hc
    · split at h
      · next hplus =>
        obtain ⟨-, rfl, hp⟩ := hplus
        obtain ⟨rfl, rfl⟩ := Prod.mk.inj (Option.some.inj h)
        refine ⟨'+' :: m :: mark, [], ?_, by simp, by simp⟩
        rw [signedMark?, hp]
        rfl
      · exact halone h

/-- Where the lexer finds no closing mark there is none, not even alone. -/
theorem mark?_of_not_closeMark? (h : closeMark? form (m :: mark) cs = none) : mark? (m :: mark) cs = none := by
  cases hmark : mark? (m :: mark) cs with
  | none => rfl
  | some found =>
    obtain ⟨close, behind⟩ := found
    have hsign : ∀ c more, cs = c :: more → (m :: mark).isPrefixOf more = true → isSign c = false := by
      rintro c more rfl -
      obtain rfl := mark?_cons hmark
      exact hm
    obtain ⟨more, after, hclose, -⟩ := closeMark?_alone hsign hmark
    rw [h] at hclose
    cases hclose

end

/-- No closing of a block and no closing of a comment begins with a blank. -/
theorem signedMark?_blank {m c : Char} {mark : List Char} (hm : Text.isBlank m = false)
    (hc : Text.isBlank c = true) : signedMark? (m :: mark) (c :: cs) = none := by
  cases h : signedMark? (m :: mark) (c :: cs) with
  | none => rfl
  | some found =>
    obtain ⟨taken, rest⟩ := found
    obtain ⟨sign, hsign, htaken, hcs⟩ := signedMark?_eq h
    rw [htaken] at hcs
    rcases sign_cases hsign with rfl | rfl | rfl <;> obtain ⟨rfl, -⟩ := List.cons.inj hcs
    · rw [hm] at hc
      cases hc
    · cases hc
    · cases hc

theorem closeMark?_blank {form : Closing} {m c : Char} {mark : List Char} (hm : isSign m = false)
    (hblank : Text.isBlank m = false) (hc : Text.isBlank c = true) :
    closeMark? form (m :: mark) (c :: cs) = none := by
  cases h : closeMark? form (m :: mark) (c :: cs) with
  | none => rfl
  | some found =>
    obtain ⟨taken, rest⟩ := found
    obtain ⟨close, eaten, hclose, -⟩ := signedMark?_of_closeMark? hm h
    rw [signedMark?_blank hblank hc] at hclose
    cases hclose

/-- A block that holds a word closes behind all blanks: a closing mark does not begin with one. -/
theorem wordTag?_eq (ho : o.delimiters = .standard) (form : Closing) (word : String) (cs : List Char) :
    wordTag? o form word cs = (do
      let (start, behind) ← mark? Delimiters.standard.blockStart cs
      let (sign, inner) := cutSign behind
      let (found, more) ← mark? word.toList (inner.dropWhile Text.isBlank)
      let (close, rest) ← closeMark? form Delimiters.standard.blockEnd (more.dropWhile Text.isBlank)
      some (sign, start ++ sign ++ inner.takeWhile Text.isBlank ++ found ++ more.takeWhile Text.isBlank ++ close,
        rest)) := by
  unfold wordTag? openMark?
  rw [ho]
  cases mark? Delimiters.standard.blockStart cs with
  | none => rfl
  | some opening =>
    simp only [Option.bind_eq_bind, Option.bind_some]
    cases mark? word.toList ((cutSign opening.2).2.dropWhile Text.isBlank) with
    | none => rfl
    | some found =>
      simp only [Option.bind_some]
      rw [findSome?_blankCuts]
      · rw [Option.map_eq_bind]
        rfl
      · intro blanks c rest hc
        exact Option.map_eq_none_iff.2 (closeMark?_blank (by decide) (by decide) hc)

end Transclusion.Template

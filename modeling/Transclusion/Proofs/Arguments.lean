import Mathlib.Data.List.TakeWhile
import Transclusion.Directive.Grammar
import Transclusion.Directive.Invocation

/-! Argument texts.

The two readers of arguments take an argument text apart in the same way, and in
the only way there is. What a proper layout writes is read token by token: a key
ends at a blank or the equal sign, a quoted value at the first mark that no
backslash precedes, and a bare one at the blank or the end behind it
(`read?_text`); and what is read was written so (`read?_sound`). Hence the checking
reader accepts the texts of proper layouts and no others, the scanning reader finds
their tokens and nothing within or between them, and a text has one layout at
most. -/
namespace Transclusion.Directive

open Text (isAsciiBlank)

/-! ### Characters -/

namespace Assignment

theorem bounds_of_isBareChar {c : Char} (h : isBareChar c = true) : 45 ≤ c.toNat ∧ c.toNat ≤ 122 := by
  delta isBareChar Char.isAlphanum Char.isAlpha Char.isUpper Char.isLower Char.isDigit at h
  simp only [Bool.or_eq_true, Bool.and_eq_true, decide_eq_true_eq, beq_iff_eq, ge_iff_le,
    UInt32.le_iff_toNat_le] at h
  show 45 ≤ c.val.toNat ∧ c.val.toNat ≤ 122
  rcases h with ((((⟨h, h'⟩ | ⟨h, h'⟩) | ⟨h, h'⟩) | rfl) | rfl) | rfl
  · exact ⟨Nat.le_trans (by decide) h, Nat.le_trans h' (by decide)⟩
  · exact ⟨Nat.le_trans (by decide) h, Nat.le_trans h' (by decide)⟩
  · exact ⟨Nat.le_trans (by decide) h, Nat.le_trans h' (by decide)⟩
  all_goals decide

theorem le_of_isBareChar {c : Char} (h : isBareChar c = true) : 45 ≤ c.toNat := (bounds_of_isBareChar h).1

theorem isBareChar_of_isKeyChar {c : Char} (h : isKeyChar c = true) : isBareChar c = true := by
  simp only [isKeyChar, isBareChar, Bool.or_eq_true] at h ⊢
  rcases h with (h | h) | h
  · exact .inl (.inl (.inl h))
  · exact .inl (.inl (.inr h))
  · exact .inr h

theorem le_of_isAsciiBlank {c : Char} (h : isAsciiBlank c = true) : c.toNat ≤ 32 := by
  simp only [isAsciiBlank, Bool.or_eq_true, Bool.and_eq_true, decide_eq_true_eq, beq_iff_eq] at h
  omega

theorem not_blank_of_isBareChar {c : Char} (h : isBareChar c = true) : isAsciiBlank c = false := by
  rw [← Bool.not_eq_true]
  intro hblank
  have := le_of_isBareChar h
  have := le_of_isAsciiBlank hblank
  omega

theorem not_isKeyChar_of_blank {c : Char} (h : isAsciiBlank c = true) : isKeyChar c = false := by
  rw [← Bool.not_eq_true]
  intro hkey
  rw [not_blank_of_isBareChar (isBareChar_of_isKeyChar hkey)] at h
  simp at h

theorem not_isBareChar_of_blank {c : Char} (h : isAsciiBlank c = true) : isBareChar c = false := by
  rw [← Bool.not_eq_true]
  intro hbare
  rw [not_blank_of_isBareChar hbare] at h
  simp at h

end Assignment

/-! ### Runs of characters -/

theorem isBlankRun_nil : IsBlankRun [] := fun _ h => nomatch h

/-- A run of one class before a text that begins with none of it. -/
theorem span_run {p : Char → Bool} {run : List Char} (rest : List Char) (hrun : ∀ c ∈ run, p c = true)
    (hrest : ∀ c, rest.head? = some c → p c = false) :
    (run ++ rest).takeWhile p = run ∧ (run ++ rest).dropWhile p = rest := by
  rw [List.takeWhile_append_of_pos hrun, List.dropWhile_append_of_pos hrun]
  cases rest with
  | nil => exact ⟨List.append_nil run, rfl⟩
  | cons c cs =>
    have hc := hrest c rfl
    rw [List.takeWhile_cons_of_neg (by simp [hc]), List.dropWhile_cons_of_neg (by simp [hc])]
    exact ⟨List.append_nil run, rfl⟩

/-- A text can be cut behind a run of one class in one way. -/
theorem run_unique {p : Char → Bool} {run run' rest rest' : List Char} (hrun : ∀ c ∈ run, p c = true)
    (hrun' : ∀ c ∈ run', p c = true) (hrest : ∀ c, rest.head? = some c → p c = false)
    (hrest' : ∀ c, rest'.head? = some c → p c = false) (h : run ++ rest = run' ++ rest') :
    run = run' ∧ rest = rest' := by
  obtain ⟨htake, hdrop⟩ := span_run rest hrun hrest
  obtain ⟨htake', hdrop'⟩ := span_run rest' hrun' hrest'
  rw [h, htake'] at htake
  rw [h, hdrop'] at hdrop
  exact ⟨htake.symm, hdrop.symm⟩

/-! ### Reading what is written -/

/-- A body and the mark behind it, before anything. -/
theorem body?_text {mark : QuoteMark} {body : List Char} (h : Body mark.char body) (rest : List Char) :
    Assignment.body? mark.char (body ++ mark.char :: rest) = some (body, rest) := by
  have hmark : mark.char ≠ '\\' := by cases mark <;> decide
  induction h with
  | empty =>
    unfold Assignment.body?
    simp
  | plain hc hb _ ih =>
    unfold Assignment.body?
    simp [hc, hb, ih]
  | pair hc _ ih =>
    unfold Assignment.body?
    simp [hmark.symm, hc, ih]

theorem body?_sound {mark : Char} {cs body rest : List Char}
    (h : Assignment.body? mark cs = some (body, rest)) : Body mark body ∧ cs = body ++ mark :: rest := by
  fun_induction Assignment.body? mark cs generalizing body with
  | case1 => simp at h
  | case2 =>
    simp only [Option.some.injEq, Prod.mk.injEq] at h
    obtain ⟨rfl, rfl⟩ := h
    exact ⟨.empty, rfl⟩
  | case3 => simp at h
  | case4 => simp at h
  | case5 _ _ hd _ ih =>
    simp only [Option.map_eq_some_iff, Prod.mk.injEq] at h
    obtain ⟨⟨b, r⟩, hb, rfl, rfl⟩ := h
    obtain ⟨hbody, rfl⟩ := ih hb
    exact ⟨.pair hd hbody, rfl⟩
  | case6 _ _ hc hb ih =>
    simp only [Option.map_eq_some_iff, Prod.mk.injEq] at h
    obtain ⟨⟨b, r⟩, hread, rfl, rfl⟩ := h
    obtain ⟨hbody, rfl⟩ := ih hread
    exact ⟨.plain hc hb hbody, rfl⟩

theorem operand?_text {operand : Operand} (h : operand.Proper) {rest : List Char} (hrest : EndsValue rest) :
    Assignment.operand? (operand.text ++ rest) = some (operand, rest) := by
  cases h with
  | @quoted mark body hbody =>
    have hread := body?_text hbody rest
    cases mark
    all_goals
      simp only [Operand.text, QuoteMark.char, List.cons_append, List.append_assoc,
        List.nil_append] at hread ⊢
      rw [Assignment.operand?, hread]
      rfl
  | @bare name hne hname =>
    obtain ⟨htake, hdrop⟩ := span_run rest hname fun c hc => Assignment.not_isBareChar_of_blank (hrest c hc)
    obtain ⟨c, cs, rfl⟩ := List.exists_cons_of_ne_nil hne
    have hc := Assignment.le_of_isBareChar (hname c (List.mem_cons_self ..))
    unfold Assignment.operand?
    split
    · next heq =>
      obtain ⟨rfl, -⟩ := List.cons.inj heq
      simp at hc
    · next heq =>
      obtain ⟨rfl, -⟩ := List.cons.inj heq
      simp at hc
    · simp only [Operand.text, htake, hdrop, hne, if_false]

theorem operand?_sound {cs rest : List Char} {operand : Operand}
    (h : Assignment.operand? cs = some (operand, rest)) : operand.Proper ∧ cs = operand.text ++ rest := by
  unfold Assignment.operand? at h
  split at h
  iterate 2
    · simp only [Option.map_eq_some_iff, Prod.mk.injEq] at h
      obtain ⟨⟨body, r⟩, hread, rfl, rfl⟩ := h
      obtain ⟨hbody, rfl⟩ := body?_sound hread
      exact ⟨.quoted hbody, by simp [Operand.text, QuoteMark.char]⟩
  · simp only at h
    split at h
    · simp at h
    · next hne =>
      simp only [Option.some.injEq, Prod.mk.injEq] at h
      obtain ⟨rfl, rfl⟩ := h
      exact ⟨.bare hne fun _ => List.mem_takeWhile_imp, List.takeWhile_append_dropWhile.symm⟩

theorem afterEqual?_text {before after rest : List Char} (hbefore : IsBlankRun before)
    (hafter : IsBlankRun after) (hrest : ∀ c, rest.head? = some c → isAsciiBlank c = false) :
    Assignment.afterEqual? (before ++ '=' :: after ++ rest) = some rest := by
  have hequal := (span_run ('=' :: (after ++ rest)) hbefore (by simp; decide)).2
  unfold Assignment.afterEqual?
  rw [List.append_assoc, List.cons_append, hequal]
  simp only [(span_run rest hafter hrest).2]

theorem afterEqual?_sound {cs rest : List Char} (h : Assignment.afterEqual? cs = some rest) :
    ∃ before after, IsBlankRun before ∧ IsBlankRun after ∧ cs = before ++ '=' :: after ++ rest := by
  unfold Assignment.afterEqual? at h
  split at h
  · next behind hbehind =>
    obtain rfl := Option.some.inj h
    refine ⟨cs.takeWhile isAsciiBlank, behind.takeWhile isAsciiBlank, fun _ => List.mem_takeWhile_imp,
      fun _ => List.mem_takeWhile_imp, ?_⟩
    rw [List.append_assoc, List.cons_append, List.takeWhile_append_dropWhile, ← hbehind,
      List.takeWhile_append_dropWhile]
  · simp at h

/-- A value does not begin with a blank. -/
theorem head_operand {operand : Operand} (h : operand.Proper) (rest : List Char) :
    ∀ c, (operand.text ++ rest).head? = some c → isAsciiBlank c = false := by
  intro c hc
  cases h with
  | @quoted mark body _ =>
    obtain rfl : mark.char = c := by simpa [Operand.text] using hc
    cases mark <;> decide
  | @bare name hne hname =>
    obtain ⟨d, ds, rfl⟩ := List.exists_cons_of_ne_nil hne
    obtain rfl : d = c := by simpa [Operand.text] using hc
    exact Assignment.not_blank_of_isBareChar (hname d (List.mem_cons_self ..))

/-- A key ends at a blank or the equal sign. -/
theorem head_separator {before : List Char} (hbefore : IsBlankRun before) (rest : List Char) :
    ∀ c, (before ++ '=' :: rest).head? = some c → Assignment.isKeyChar c = false := by
  intro c hc
  cases before with
  | nil =>
    obtain rfl : '=' = c := by simpa using hc
    decide
  | cons d ds =>
    obtain rfl : d = c := by simpa using hc
    exact Assignment.not_isKeyChar_of_blank (hbefore d (List.mem_cons_self ..))

/-- A token before a blank or the end is read. -/
theorem read?_text {t : Token} (h : t.Proper) {rest : List Char} (hrest : EndsValue rest) :
    Assignment.read? (t.text ++ rest) = some (t.assignment, rest) := by
  have htext : t.text ++ rest = t.key ++ (t.before ++ '=' :: (t.after ++ (t.operand.text ++ rest))) := by
    simp [Token.text]
  obtain ⟨hkey, hbehind⟩ := span_run _ h.key (head_separator h.before (t.after ++ (t.operand.text ++ rest)))
  have hequal := afterEqual?_text h.before h.after (head_operand h.operand rest)
  rw [List.append_assoc, List.cons_append] at hequal
  unfold Assignment.read?
  simp only [htext, hkey, hbehind, h.key_ne, if_false, hequal, operand?_text h.operand hrest,
    Option.bind_eq_bind, Option.bind_some]
  rfl

/-- What is read is a token. -/
theorem read?_sound {cs rest : List Char} {a : Assignment} (h : Assignment.read? cs = some (a, rest)) :
    ∃ t : Token, t.Proper ∧ t.assignment = a ∧ cs = t.text ++ rest := by
  unfold Assignment.read? at h
  simp only at h
  split at h
  · simp at h
  · next hne =>
    simp only [Option.bind_eq_bind, Option.bind_eq_some_iff, Option.some.injEq, Prod.mk.injEq] at h
    obtain ⟨behind, hbehind, ⟨operand, r⟩, hoperand, rfl, rfl⟩ := h
    obtain ⟨before, after, hbefore, hafter, heq⟩ := afterEqual?_sound hbehind
    obtain ⟨hproper, rfl⟩ := operand?_sound hoperand
    refine ⟨⟨cs.takeWhile Assignment.isKeyChar, before, after, operand⟩,
      ⟨hne, fun _ => List.mem_takeWhile_imp, hbefore, hafter, hproper⟩, rfl, ?_⟩
    calc cs = cs.takeWhile Assignment.isKeyChar ++ cs.dropWhile Assignment.isKeyChar :=
          List.takeWhile_append_dropWhile.symm
      _ = _ := by
          rw [heq]
          simp [Token.text]

/-! ### Layouts -/

namespace Layout

/-- A token begins with a character of its key. -/
theorem isBareChar_head_token {t : Token} (h : t.Proper) (rest : List Char) :
    ∀ c, (t.text ++ rest).head? = some c → Assignment.isBareChar c = true := by
  intro c hc
  obtain ⟨d, ds, hd⟩ := List.exists_cons_of_ne_nil h.key_ne
  obtain rfl : d = c := by simpa [Token.text, hd] using hc
  have hkey := h.key d (by rw [hd]; exact List.mem_cons_self ..)
  exact Assignment.isBareChar_of_isKeyChar hkey

/-- So it does not begin with a blank. -/
theorem head_token {t : Token} (h : t.Proper) (rest : List Char) :
    ∀ c, (t.text ++ rest).head? = some c → isAsciiBlank c = false := fun c hc =>
  Assignment.not_blank_of_isBareChar (isBareChar_head_token h rest c hc)

theorem text_ne_nil {t : Token} (rest : List Char) : t.text ++ rest ≠ [] := by simp [Token.text]

/-- Two tokens of one text with one assignment have the same blanks. -/
theorem token_unique {t t' : Token} (h : t.Proper) (h' : t'.Proper)
    (hassignment : t.assignment = t'.assignment) (htext : t.text = t'.text) : t = t' := by
  obtain ⟨key, before, after, operand⟩ := t
  obtain ⟨key', before', after', operand'⟩ := t'
  obtain ⟨rfl, rfl⟩ := Assignment.mk.inj hassignment
  have hequal : ∀ c, ('=' :: after).head? = some c → isAsciiBlank c = false := by simp; decide
  have hequal' : ∀ c, ('=' :: after').head? = some c → isAsciiBlank c = false := by simp; decide
  have hblanks : before ++ '=' :: after ++ operand.text = before' ++ '=' :: after' ++ operand.text := by
    simpa [Token.text] using htext
  obtain ⟨rfl, hafter⟩ := run_unique h.before h'.before hequal hequal' (List.append_cancel_right hblanks)
  obtain ⟨-, rfl⟩ := List.cons.inj hafter
  rfl

/-- Blanks alone are not laid out with a token. -/
theorem blanks_ne_token {run lead : List Char} {t : Token} {rest : List Char} (hrun : IsBlankRun run)
    (hlead : IsBlankRun lead) (ht : t.Proper) : run ≠ lead ++ t.text ++ rest := by
  intro htext
  rw [List.append_assoc, ← List.append_nil run] at htext
  obtain ⟨-, hnil⟩ := run_unique hrun hlead (by simp) (head_token ht rest) htext
  exact text_ne_nil rest hnil.symm

/-- A text has one proper layout at most. -/
theorem unique {l l' : Layout} (h : l.Proper) (h' : l'.Proper) (htext : l.text = l'.text) : l = l' := by
  induction h generalizing l' with
  | @blanks run hrun =>
    cases h' with
    | blanks _ => exact congrArg Layout.blanks htext
    | token hlead ht _ _ => exact absurd htext (blanks_ne_token hrun hlead ht)
  | @token lead t rest hlead ht hends hrest ih =>
    cases h' with
    | blanks hrun => exact absurd htext.symm (blanks_ne_token hrun hlead ht)
    | @token lead' t' rest' hlead' ht' hends' hrest' =>
      -- The blanks end where the token begins, and the token ends where its reader stops.
      simp only [text, List.append_assoc] at htext
      obtain ⟨rfl, hbehind⟩ := run_unique hlead hlead' (head_token ht _) (head_token ht' _) htext
      have hread := read?_text ht hends
      rw [hbehind, read?_text ht' hends', Option.some.injEq, Prod.mk.injEq] at hread
      obtain ⟨hassignment, hrests⟩ := hread
      rw [← hrests] at hbehind
      obtain rfl := token_unique ht ht' hassignment.symm (List.append_cancel_right hbehind)
      rw [ih hrest' hrests.symm]

end Layout

/-! ### The two readers -/

theorem parse?_blanks {cs : List Char} (h : cs.dropWhile isAsciiBlank = []) : parse? cs = some [] := by
  rw [parse?]
  simp only [h, if_true]

theorem parse?_unread {cs : List Char} (h : cs.dropWhile isAsciiBlank ≠ [])
    (hread : Assignment.read? (cs.dropWhile isAsciiBlank) = none) : parse? cs = none := by
  rw [parse?]
  simp only [h, if_false]
  split
  · rfl
  · next hsome => simp [hread] at hsome

theorem parse?_read {cs rest : List Char} {a : Assignment} (h : cs.dropWhile isAsciiBlank ≠ [])
    (hread : Assignment.read? (cs.dropWhile isAsciiBlank) = some (a, rest)) :
    parse? cs =
      if rest = [] ∨ isAsciiBlank (rest.headD ' ') = true then (parse? rest).map (a :: ·) else none := by
  rw [parse?]
  simp only [h, if_false]
  split
  · next hnone => simp [hread] at hnone
  · next hsome =>
    rw [hread, Option.some.injEq, Prod.mk.injEq] at hsome
    obtain ⟨rfl, rfl⟩ := hsome
    rfl

/-- Where another token may begin, as the checking reader tells it. -/
theorem endsValue_iff (cs : List Char) : (cs = [] ∨ isAsciiBlank (cs.headD ' ') = true) ↔ EndsValue cs := by
  cases cs <;> simp [EndsValue]

/-- The checking reader reads what a proper layout lays out. -/
theorem parse?_text {l : Layout} (h : l.Proper) : parse? l.text = some l.assignments := by
  induction h with
  | @blanks run hrun =>
    have hdrop := (span_run [] hrun (by simp)).2
    rw [List.append_nil] at hdrop
    exact parse?_blanks hdrop
  | @token lead t rest hlead ht hends hrest ih =>
    have hdrop := (span_run _ hlead (Layout.head_token ht rest.text)).2
    rw [← List.append_assoc] at hdrop
    have hread := read?_text ht hends
    rw [← hdrop] at hread
    have hne := Layout.text_ne_nil (t := t) rest.text
    rw [← hdrop] at hne
    rw [Layout.text, parse?_read hne hread, if_pos ((endsValue_iff _).2 hends), ih]
    rfl

/-- What the checking reader accepts is laid out properly. -/
theorem parse?_sound {cs : List Char} {assignments : List Assignment} (h : parse? cs = some assignments) :
    ∃ l : Layout, l.Proper ∧ l.text = cs := by
  induction hn : cs.length using Nat.strong_induction_on generalizing cs assignments with
  | _ n ih =>
    have hlead : IsBlankRun (cs.takeWhile isAsciiBlank) := fun _ => List.mem_takeWhile_imp
    have hsplit : cs.takeWhile isAsciiBlank ++ cs.dropWhile isAsciiBlank = cs :=
      List.takeWhile_append_dropWhile
    by_cases hnil : cs.dropWhile isAsciiBlank = []
    · rw [hnil, List.append_nil] at hsplit
      exact ⟨.blanks _, .blanks hlead, hsplit⟩
    · cases hread : Assignment.read? (cs.dropWhile isAsciiBlank) with
      | none => simp [parse?_unread hnil hread] at h
      | some read =>
        obtain ⟨a, rest⟩ := read
        rw [parse?_read hnil hread] at h
        split at h
        · next hends =>
          obtain ⟨more, hmore, -⟩ := Option.map_eq_some_iff.1 h
          have hshorter := Nat.lt_of_lt_of_le (Assignment.read?_length hread)
            (Assignment.dropWhile_length_le isAsciiBlank cs)
          obtain ⟨l, hproper, rfl⟩ := ih rest.length (hn ▸ hshorter) hmore rfl
          obtain ⟨t, ht, -, htext⟩ := read?_sound hread
          refine ⟨.token _ t l, .token hlead ht ((endsValue_iff _).1 hends) hproper, ?_⟩
          rw [Layout.text, List.append_assoc, ← htext, hsplit]
        · simp at h

theorem occurrences_read {cs rest : List Char} {a : Assignment} (h : Assignment.read? cs = some (a, rest)) :
    occurrences cs = a :: occurrences rest := by
  rw [occurrences]
  split
  · next hsome =>
    rw [h, Option.some.injEq, Prod.mk.injEq] at hsome
    obtain ⟨rfl, rfl⟩ := hsome
    rfl
  · next hnone => simp [h] at hnone

/-- Nothing is read at a blank, so the scanning reader goes on behind it. -/
theorem occurrences_blank {c : Char} (h : isAsciiBlank c = true) (cs : List Char) :
    occurrences (c :: cs) = occurrences cs := by
  have hkey := Assignment.not_isKeyChar_of_blank h
  have hread : Assignment.read? (c :: cs) = none := by simp [Assignment.read?, hkey]
  rw [occurrences]
  split
  · next hsome => simp [hread] at hsome
  · rfl

theorem occurrences_blanks {run : List Char} (h : IsBlankRun run) (cs : List Char) :
    occurrences (run ++ cs) = occurrences cs := by
  induction run with
  | nil => rfl
  | cons c rest ih =>
    rw [List.cons_append, occurrences_blank (h c (List.mem_cons_self ..))]
    exact ih fun d hd => h d (List.mem_cons_of_mem c hd)

theorem occurrences_nil : occurrences [] = [] := by
  rw [occurrences]
  rfl

/-- The scanning reader finds the tokens of a proper layout, and nothing else. -/
theorem occurrences_text {l : Layout} (h : l.Proper) : occurrences l.text = l.assignments := by
  induction h with
  | @blanks run hrun =>
    have hscan := occurrences_blanks hrun []
    rw [List.append_nil, occurrences_nil] at hscan
    exact hscan
  | @token lead t rest hlead ht hends hrest ih =>
    rw [Layout.text, List.append_assoc, occurrences_blanks hlead, occurrences_read (read?_text ht hends), ih]
    rfl

theorem isWellFormed_iff {cs : List Char} : isWellFormed cs = true ↔ ∃ l : Layout, l.Proper ∧ l.text = cs := by
  refine ⟨fun h => ?_, fun ⟨l, hproper, htext⟩ => ?_⟩
  · obtain ⟨assignments, hparse⟩ := Option.isSome_iff_exists.1 h
    exact parse?_sound hparse
  · rw [isWellFormed, ← htext, parse?_text hproper]
    rfl

theorem checkArguments_eq_ok {tag : String} {cs : List Char} :
    checkArguments tag cs = .ok () ↔ isWellFormed cs = true := by
  unfold checkArguments
  split <;> simp_all

/-- The tokens of a proper layout give the keys their values. -/
theorem bindArguments_text {l : Layout} (h : l.Proper) (scope : Scope) (unset : String → Value)
    (table : Attributes) : bindArguments scope unset l.text table = assignAll scope unset [] l.assignments table := by
  rw [bindArguments, occurrences_text h]

/-- An argument text is accepted exactly if it is laid out properly, and refused with the one complaint
otherwise. It has one proper layout at most, and what gives the keys their values are the tokens of that
layout, in order. -/
theorem checkArguments_layout (tag : String) (raw : List Char) :
    (checkArguments tag raw = .ok () ↔ ∃ l : Layout, l.Proper ∧ l.text = raw) ∧
    (checkArguments tag raw = .ok () ∨
      checkArguments tag raw = .error (.malformedArguments tag (String.ofList raw) (syntaxExample tag))) ∧
    ∀ l : Layout, l.Proper → l.text = raw →
      (∀ l' : Layout, l'.Proper → l'.text = raw → l' = l) ∧
      occurrences raw = l.assignments ∧
      ∀ scope unset table, bindArguments scope unset raw table = assignAll scope unset [] l.assignments table := by
  refine ⟨⟨fun haccepted => ?_, fun ⟨l, hproper, htext⟩ => ?_⟩, ?_, fun l hproper htext => ?_⟩
  · unfold checkArguments isWellFormed at haccepted
    cases hparse : parse? raw with
    | none => simp [hparse] at haccepted
    | some assignments => exact parse?_sound hparse
  · unfold checkArguments isWellFormed
    rw [← htext, parse?_text hproper]
    rfl
  · unfold checkArguments
    split
    · exact .inl rfl
    · exact .inr rfl
  · have hscan : occurrences raw = l.assignments := htext ▸ occurrences_text hproper
    refine ⟨fun l' hproper' htext' => Layout.unique hproper' hproper (htext'.trans htext.symm), hscan, ?_⟩
    intro scope unset table
    rw [bindArguments, hscan]

/-- Within quotes nothing is taken for a token, and a mark behind a backslash does not end them. -/
theorem checkArguments_layout_quoted :
    let raw := "a = \"b=c\\\"\" ".toList
    checkArguments "include_file" raw = .ok () ∧
    occurrences raw = [⟨['a'], .quoted .double ['b', '=', 'c', '\\', '"']⟩] := by
  intro raw
  have hbody : Body '"' ['b', '=', 'c', '\\', '"'] :=
    .plain (by decide) (by decide) (.plain (by decide) (by decide) (.plain (by decide) (by decide)
      (.pair (by decide) .empty)))
  let l : Layout :=
    .token [] ⟨['a'], [' '], [' '], .quoted .double ['b', '=', 'c', '\\', '"']⟩ (.blanks [' '])
  have hkey : ∀ c ∈ ['a'], Assignment.isKeyChar c = true := by
    intro c hc
    rw [List.mem_singleton.1 hc]
    decide
  have hblank : IsBlankRun [' '] := by
    intro c hc
    rw [List.mem_singleton.1 hc]
    decide
  have hproper : l.Proper :=
    .token (by simp [IsBlankRun]) ⟨by simp, hkey, hblank, hblank, .quoted hbody⟩
      (fun c hc => hblank c (List.mem_of_mem_head? hc)) (.blanks hblank)
  obtain ⟨haccepted, -, hread⟩ := checkArguments_layout "include_file" raw
  exact ⟨haccepted.2 ⟨l, hproper, rfl⟩, (hread l hproper rfl).2.1⟩

end Transclusion.Directive

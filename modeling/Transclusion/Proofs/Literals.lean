import Transclusion.Proofs.Markup
import Transclusion.Template.Token

/-! Literals read back.

A text is written as a literal for a reader that has escapes of its own. Both go
character by character: the piece that stands for a character is passed over as a
whole while the closing mark is looked for, and the reader of escapes takes it in
one step, whether it is the character itself, a short form or a code point
(`unescapeWith_piece`). So a literal ends at its own closing mark, whatever comes
behind, and is read as the text that it was written for. -/
namespace Transclusion.Template

open Text (hexDigit hexDigits literalChar literal)

/-! ### Digits -/

theorem digitValue?_hexDigit {d : Nat} (h : d < 16) : digitValue? (hexDigit d) = some d := by
  have hall : ∀ d < 16, digitValue? (hexDigit d) = some d := by decide
  exact hall d h

/-- What a value comes to behind which the last digits of a number are read. -/
def extended : (width : Nat) → (value n : Nat) → Nat
  | 0, value, _ => value
  | width + 1, value, n => extended width value (n / 16) * 16 + n % 16

/-- The digits of a number are read back, and more of what follows if there is room for it. -/
theorem leadingNumber_hexDigits (width count value read n : Nat) (more : List Char) :
    leadingNumber 16 (width + count) value read (hexDigits width n ++ more) =
      leadingNumber 16 count (extended width value n) (read + width) more := by
  induction width generalizing count n more with
  | zero => rw [Nat.zero_add]; rfl
  | succ width ih =>
    have hlast : n % 16 < 16 := Nat.mod_lt _ (by decide)
    rw [hexDigits, List.append_assoc, Nat.add_assoc, Nat.add_comm 1 count, ih]
    rw [List.singleton_append, leadingNumber, digitValue?_hexDigit hlast]
    simp only [hlast, if_true]
    rfl

/-- A number that fits into its digits is read from them. -/
theorem leadingNumber_number {width n : Nat} (h : extended width 0 n = n) (more : List Char) :
    leadingNumber 16 width 0 0 (hexDigits width n ++ more) = (n, width, more) := by
  have hdigits := leadingNumber_hexDigits width 0 0 0 n more
  rw [Nat.add_zero] at hdigits
  rw [hdigits, leadingNumber, h, Nat.zero_add]

theorem extended_two {n : Nat} (h : n < 0x100) : extended 2 0 n = n := by
  simp only [extended]
  omega

theorem extended_four {n : Nat} (h : n < 0x10000) : extended 4 0 n = n := by
  simp only [extended]
  omega

theorem extended_eight {n : Nat} (h : n < 0x100000000) : extended 8 0 n = n := by
  simp only [extended]
  omega

/-- The digits of a number are such digits each. -/
theorem mem_hexDigits {width n : Nat} {c : Char} (h : c ∈ hexDigits width n) :
    ∃ d < 16, c = hexDigit d := by
  induction width generalizing n with
  | zero => simp [hexDigits] at h
  | succ width ih =>
    rw [hexDigits, List.mem_append, List.mem_singleton] at h
    rcases h with h | h
    · exact ih h
    · exact ⟨n % 16, Nat.mod_lt _ (by decide), h⟩

/-! ### One character -/

theorem eq_of_toNat_eq {c d : Char} (h : c.toNat = d.toNat) : c = d := Char.ext (UInt32.toNat_inj.1 h)

/-- How a character stands in a literal: behind a backslash in short, by its code point, or as itself. -/
theorem literalChar_cases (c : Char) :
    (∃ short, literalChar .transparent c = ['\\', short] ∧ shortEscape? short = some c ∧
      0x20 ≤ short.toNat ∧ short.toNat < 0x80) ∨
    (literalChar .transparent c = '\\' :: 'u' :: hexDigits 4 c.toNat ∧ c.toNat < 0x20) ∨
    (literalChar .transparent c = [c] ∧ c ≠ '"' ∧ c ≠ '\\' ∧ 0x20 ≤ c.toNat) := by
  by_cases hmark : c = '"'
  · subst hmark
    exact .inl ⟨'"', rfl, by decide, by decide⟩
  by_cases hslash : c = '\\'
  · subst hslash
    exact .inl ⟨'\\', rfl, by decide, by decide⟩
  by_cases hfeed : c = '\n'
  · subst hfeed
    exact .inl ⟨'n', rfl, by decide, by decide⟩
  by_cases hreturn : c = '\r'
  · subst hreturn
    exact .inl ⟨'r', rfl, by decide, by decide⟩
  by_cases htab : c = '\t'
  · subst htab
    exact .inl ⟨'t', rfl, by decide, by decide⟩
  by_cases hback : c.toNat = 8
  · obtain rfl : c = '\x08' := eq_of_toNat_eq hback
    exact .inl ⟨'b', rfl, by decide, by decide⟩
  by_cases hform : c.toNat = 0xc
  · obtain rfl : c = '\x0c' := eq_of_toNat_eq hform
    exact .inl ⟨'f', rfl, by decide, by decide⟩
  right
  unfold literalChar
  simp only [hmark, hslash, hfeed, hreturn, htab, hback, hform, or_self, or_true, if_true, if_false]
  by_cases hcontrol : c.toNat < 0x20
  · rw [if_pos hcontrol]
    exact .inl ⟨rfl, hcontrol⟩
  · rw [if_neg hcontrol]
    exact .inr ⟨rfl, hmark, hslash, by omega⟩

/-- A digit is neither a mark nor a backslash, and lies between the controls and the end of ASCII. -/
theorem hexDigit_plain {d : Nat} (h : d < 16) :
    hexDigit d ≠ '"' ∧ hexDigit d ≠ '\\' ∧ 0x20 ≤ (hexDigit d).toNat ∧ (hexDigit d).toNat < 0x80 := by
  have hall : ∀ d < 16, hexDigit d ≠ '"' ∧ hexDigit d ≠ '\\' ∧ 0x20 ≤ (hexDigit d).toNat ∧
    (hexDigit d).toNat < 0x80 := by decide
  exact hall d h

theorem literalBody?_cons {mark c : Char} (hc : c ≠ '\\') (cs : List Char) :
    literalBody? mark (c :: cs) =
      if c = mark then some ([], cs) else (literalBody? mark cs).map fun (b, rest) => (c :: b, rest) := by
  rw [literalBody?, if_neg hc]
  rintro d more rfl
  exact absurd rfl hc

theorem literalBody?_plain {c : Char} (hmark : c ≠ '"') (hslash : c ≠ '\\') (more : List Char) :
    literalBody? '"' (c :: more) = (literalBody? '"' more).map fun (b, rest) => (c :: b, rest) := by
  rw [literalBody?_cons hslash, if_neg hmark]

/-- Plain characters are passed over one after another. -/
theorem literalBody?_plains {piece : List Char} (h : ∀ c ∈ piece, c ≠ '"' ∧ c ≠ '\\') (more : List Char) :
    literalBody? '"' (piece ++ more) = (literalBody? '"' more).map fun (b, rest) => (piece ++ b, rest) := by
  induction piece with
  | nil => simp
  | cons c piece ih =>
    obtain ⟨hmark, hslash⟩ := h c (List.mem_cons_self ..)
    rw [List.cons_append, literalBody?_plain hmark hslash, ih fun d hd => h d (List.mem_cons_of_mem c hd)]
    simp [Option.map_map, Function.comp_def]

/-- The piece of a character is passed over as a whole while the mark is looked for. -/
theorem literalBody?_literalChar (c : Char) (more : List Char) :
    literalBody? '"' (literalChar .transparent c ++ more) =
      (literalBody? '"' more).map fun (b, rest) => (literalChar .transparent c ++ b, rest) := by
  rcases literalChar_cases c with ⟨short, hpiece, -, -⟩ | ⟨hpiece, -⟩ | ⟨hpiece, hmark, hslash, -⟩ <;> rw [hpiece]
  · rfl
  · have hdigits : ∀ d ∈ hexDigits 4 c.toNat, d ≠ '"' ∧ d ≠ '\\' := by
      intro d hd
      obtain ⟨n, hn, rfl⟩ := mem_hexDigits hd
      exact ⟨(hexDigit_plain hn).1, (hexDigit_plain hn).2.1⟩
    have hpass := literalBody?_plains hdigits more
    rw [List.cons_append, List.cons_append, literalBody?, hpass]
    simp [Option.map_map, Function.comp_def]
  · exact literalBody?_plain hmark hslash more

/-! ### Escapes -/

/-- The letters behind which a code point stands, and how many digits it has. -/
def numberLetters : List (Char × Nat) := [('x', 2), ('u', 4), ('U', 8)]

/-- A code point is read from its digits. -/
theorem unescapeWith_number {letter : Char} {width n : Nat} (hletter : (letter, width) ∈ numberLetters)
    (hfits : extended width 0 n = n) (hn : n < 0x110000) (fuel : Nat) (more : List Char) :
    unescapeWith (fuel + 1) ('\\' :: letter :: hexDigits width n ++ more) =
      (unescapeWith fuel more).map (Char.ofNat n :: ·) := by
  have hshort : ∀ entry ∈ numberLetters, shortEscape? entry.1 = none := by decide
  have hnumber := leadingNumber_number hfits more
  have hrange : ¬0x10ffff < n := by omega
  simp only [List.cons_append, unescapeWith, hshort _ hletter]
  simp only [numberLetters, List.mem_cons, Prod.mk.injEq, List.not_mem_nil, or_false] at hletter
  obtain ⟨rfl, rfl⟩ | ⟨rfl, rfl⟩ | ⟨rfl, rfl⟩ := hletter <;> simp [hnumber, hrange]

theorem asciiChar_of_lt {c : Char} (h : c.toNat < 0x80) : asciiChar c = [c] := by
  rw [asciiChar, if_pos h]

theorem flatMap_asciiChar {cs : List Char} (h : ∀ c ∈ cs, c.toNat < 0x80) : cs.flatMap asciiChar = cs := by
  induction cs with
  | nil => rfl
  | cons c cs ih =>
    rw [List.flatMap_cons, asciiChar_of_lt (h c (List.mem_cons_self ..)),
      ih fun d hd => h d (List.mem_cons_of_mem c hd)]
    rfl

theorem toNat_lt (c : Char) : c.toNat < 0x110000 := by
  rcases c.valid with h | ⟨-, h⟩
  · exact Nat.lt_trans h (by decide)
  · exact h

/-- The reader of escapes takes the piece of a character in one step. -/
theorem unescapeWith_piece (fuel : Nat) (c : Char) (more : List Char) :
    unescapeWith (fuel + 1) ((literalChar .transparent c).flatMap asciiChar ++ more) =
      (unescapeWith fuel more).map (c :: ·) := by
  have hself : Char.ofNat c.toNat = c := Char.ofNat_toNat c
  rcases literalChar_cases c with ⟨short, hpiece, hshort, -, hascii⟩ | ⟨hpiece, hcontrol⟩ | ⟨hpiece, -, hslash, -⟩ <;>
    rw [hpiece]
  · have hsame : ['\\', short].flatMap asciiChar = ['\\', short] := flatMap_asciiChar (by simp [hascii])
    rw [hsame]
    simp [unescapeWith, hshort]
  · have hsame : ('\\' :: 'u' :: hexDigits 4 c.toNat).flatMap asciiChar =
        '\\' :: 'u' :: hexDigits 4 c.toNat := by
      refine flatMap_asciiChar fun d hd => ?_
      rcases List.mem_cons.1 hd with rfl | hd
      · decide
      rcases List.mem_cons.1 hd with rfl | hd
      · decide
      obtain ⟨n, hn, rfl⟩ := mem_hexDigits hd
      exact (hexDigit_plain hn).2.2.2
    rw [hsame, unescapeWith_number (by decide) (extended_four (by omega)) (toNat_lt c), hself]
  · rw [List.flatMap_singleton, asciiChar]
    split
    · rw [List.singleton_append, unescapeWith.eq_4 _ _ _ (fun _ _ h => absurd h hslash)]
    split
    · next h => rw [unescapeWith_number (by decide) (extended_two h) (toNat_lt c), hself]
    split
    · next h => rw [unescapeWith_number (by decide) (extended_four h) (toNat_lt c), hself]
    · rw [unescapeWith_number (by decide) (extended_eight (Nat.lt_trans (toNat_lt c) (by decide))) (toNat_lt c), hself]

/-! ### Whole literals -/

/-- What stands between the marks of the literal of a text. -/
def literalBody (cs : List Char) : List Char := cs.flatMap (literalChar .transparent)

/-- No control stands in a literal as itself. -/
theorem le_of_mem_literalBody {cs : List Char} {c : Char} (h : c ∈ literalBody cs) : 0x20 ≤ c.toNat := by
  obtain ⟨d, -, hc⟩ := List.mem_flatMap.1 h
  rcases literalChar_cases d with ⟨short, hpiece, -, hlow, -⟩ | ⟨hpiece, -⟩ | ⟨hpiece, -, -, hle⟩ <;>
    rw [hpiece] at hc
  · rcases List.mem_cons.1 hc with rfl | hc
    · decide
    · obtain rfl := List.mem_singleton.1 hc
      exact hlow
  · rcases List.mem_cons.1 hc with rfl | hc
    · decide
    rcases List.mem_cons.1 hc with rfl | hc
    · decide
    obtain ⟨n, hn, rfl⟩ := mem_hexDigits hc
    exact (hexDigit_plain hn).2.2.1
  · obtain rfl := List.mem_singleton.1 hc
    exact hle

theorem unifyLineEnds_eq {cs : List Char} (h : '\r' ∉ cs) : Text.unifyLineEnds cs = cs := by
  induction cs with
  | nil => rfl
  | cons c cs ih =>
    rw [List.mem_cons, not_or] at h
    rw [Text.unifyLineEnds.eq_3 _ _ (fun _ hc _ => h.1 hc.symm), if_neg (Ne.symm h.1), ih h.2]

theorem withLineEnds_eq {lineEnd text : List Char} (h : '\n' ∉ text) : withLineEnds lineEnd text = text := by
  unfold withLineEnds
  split
  · rfl
  · induction text with
    | nil => rfl
    | cons c cs ih =>
      rw [List.mem_cons, not_or] at h
      rw [List.flatMap_cons, if_neg (Ne.symm h.1), ih h.2]
      rfl

/-- The literal of a text ends at its own closing mark, whatever comes behind. -/
theorem literalBody?_literalBody (cs rest : List Char) :
    literalBody? '"' (literalBody cs ++ '"' :: rest) = some (literalBody cs, rest) := by
  unfold literalBody
  induction cs with
  | nil => rfl
  | cons c cs ih =>
    rw [List.flatMap_cons, List.append_assoc, literalBody?_literalChar, ih]
    rfl

/-- The pieces of a text are read one after another. -/
theorem unescapeWith_literalBody (cs : List Char) (fuel : Nat)
    (h : (asciiText (literalBody cs)).length ≤ fuel) : unescapeWith fuel (asciiText (literalBody cs)) = .ok cs := by
  induction cs generalizing fuel with
  | nil => cases fuel <;> rfl
  | cons c cs ih =>
    have hsplit : asciiText (literalBody (c :: cs)) =
        (literalChar .transparent c).flatMap asciiChar ++ asciiText (literalBody cs) := by
      simp [asciiText, literalBody, List.flatMap_append]
    -- A piece is not empty, for it is read as a character.
    have hpiece : 0 < ((literalChar .transparent c).flatMap asciiChar).length := by
      rw [List.length_pos_iff]
      intro hnil
      have hread := unescapeWith_piece 0 c []
      rw [hnil] at hread
      cases hread
    rw [hsplit, List.length_append] at h
    rw [hsplit]
    obtain ⟨fuel, rfl⟩ : ∃ less, fuel = less + 1 := ⟨fuel - 1, by omega⟩
    rw [unescapeWith_piece, ih fuel (by omega)]
    rfl

/-- What stands between the marks is read as the text. -/
theorem literalText_literalBody (cs : List Char) : literalText (literalBody cs) = .ok cs := by
  have hreturn : '\r' ∉ literalBody cs := fun h => absurd (le_of_mem_literalBody h) (by decide)
  unfold literalText
  rw [unifyLineEnds_eq hreturn]
  exact unescapeWith_literalBody cs _ (Nat.le_refl _)

theorem literal_eq (cs rest : List Char) :
    literal .transparent cs ++ rest = '"' :: (literalBody cs ++ '"' :: rest) := by
  simp [literal, literalBody]

end Transclusion.Template

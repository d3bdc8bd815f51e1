import Transclusion.Proofs.Arguments
import Transclusion.Proofs.Environments

/-! Quoted values.

Putting a backslash before every mark of a value and taking it away again gives the
value back, whatever backslashes it holds (`unquote_escaped`): taking away goes by
the characters that stand side by side, and a mark has its own backslash right
before it. The bodies that the grammar allows are such written values
(`Body.exists_escaped`), so they can be told from what they stand for. A value
without backslashes is always written as a body, and quotations joined by blanks
are laid out properly (`Joined.exists_layout`). -/
namespace Transclusion.Directive

variable {mark : Char}

/-! ### Escaping a mark -/

@[simp] theorem escaped_nil (mark : Char) : escaped mark [] = [] := rfl

theorem escaped_mark (mark : Char) (cs : List Char) :
    escaped mark (mark :: cs) = '\\' :: mark :: escaped mark cs := by
  simp [escaped]

theorem escaped_other {c : Char} (h : c ≠ mark) (cs : List Char) :
    escaped mark (c :: cs) = c :: escaped mark cs := by
  simp [escaped, h]

/-- No mark stands at the start of a written value. -/
theorem escaped_head (hmark : mark ≠ '\\') (value : List Char) :
    ∀ c, (escaped mark value).head? = some c → c ≠ mark := by
  intro c hc
  cases value with
  | nil => simp at hc
  | cons d ds =>
    by_cases h : d = mark
    · subst h
      rw [escaped_mark] at hc
      obtain rfl : '\\' = c := by simpa using hc
      exact hmark.symm
    · rw [escaped_other h] at hc
      obtain rfl : d = c := by simpa using hc
      exact h

theorem body_escaped (hmark : mark ≠ '\n') {value : List Char} (h : '\\' ∉ value) :
    Body mark (escaped mark value) := by
  induction value with
  | nil => exact .empty
  | cons c cs ih =>
    obtain ⟨hc, hcs⟩ := not_or.1 (mt List.mem_cons.2 h)
    by_cases hm : c = mark
    · subst hm
      rw [escaped_mark]
      exact .pair hmark (ih hcs)
    · rw [escaped_other hm]
      exact .plain hm (Ne.symm hc) (ih hcs)

/-- Every body is the written form of some value. -/
theorem Body.exists_escaped (hmark : mark ≠ '\\') {body : List Char} (h : Body mark body) :
    ∃ value, escaped mark value = body := by
  induction h with
  | empty => exact ⟨[], rfl⟩
  | @plain c cs hc _ _ ih =>
    obtain ⟨value, rfl⟩ := ih
    exact ⟨c :: value, escaped_other hc value⟩
  | @pair c cs _ _ ih =>
    obtain ⟨value, rfl⟩ := ih
    by_cases hc : c = mark
    · subst hc
      exact ⟨c :: value, escaped_mark c value⟩
    · -- A backslash before another character is a part of the value.
      exact ⟨'\\' :: c :: value, by rw [escaped_other hmark.symm, escaped_other hc]⟩

/-! ### Taking the backslashes away -/

theorem replaceAll_go_mark (fuel : Nat) (cs : List Char) :
    Text.replaceAll.go ['\\', mark] [mark] (fuel + 1) ('\\' :: mark :: cs) =
      mark :: Text.replaceAll.go ['\\', mark] [mark] fuel cs := by
  rw [Text.replaceAll.go.eq_def]
  simp

/-- Where no mark follows a backslash, the first character stays. -/
theorem replaceAll_go_other {c : Char} {cs : List Char} (h : ∀ d, cs.head? = some d → d ≠ mark)
    (fuel : Nat) : Text.replaceAll.go ['\\', mark] [mark] (fuel + 1) (c :: cs) =
      c :: Text.replaceAll.go ['\\', mark] [mark] fuel cs := by
  have hstays : ['\\', mark].isPrefixOf (c :: cs) = false := by
    cases cs with
    | nil => exact Bool.and_false _
    | cons d ds => rw [List.isPrefixOf, List.isPrefixOf, beq_false_of_ne (h d rfl).symm, Bool.false_and,
        Bool.and_false]
  rw [Text.replaceAll.go.eq_def]
  simp [hstays]

theorem replaceAll_go_escaped (hmark : mark ≠ '\\') (value : List Char) {fuel : Nat}
    (hfuel : (escaped mark value).length ≤ fuel) :
    Text.replaceAll.go ['\\', mark] [mark] fuel (escaped mark value) = value := by
  induction value generalizing fuel with
  | nil => cases fuel <;> rfl
  | cons c cs ih =>
    by_cases hc : c = mark
    · subst hc
      rw [escaped_mark] at hfuel ⊢
      cases fuel with
      | zero => simp at hfuel
      | succ fuel =>
        simp only [List.length_cons] at hfuel
        rw [replaceAll_go_mark, ih (by omega)]
    · rw [escaped_other hc] at hfuel ⊢
      cases fuel with
      | zero => simp at hfuel
      | succ fuel =>
        simp only [List.length_cons] at hfuel
        rw [replaceAll_go_other (escaped_head hmark cs), ih (by omega)]

theorem QuoteMark.char_ne_backslash (mark : QuoteMark) : mark.char ≠ '\\' := by cases mark <;> decide

/-- Taking the backslashes away undoes putting them before the marks. -/
theorem unquote_escaped (mark : QuoteMark) (value : List Char) :
    unquote mark (escaped mark.char value) = value :=
  replaceAll_go_escaped mark.char_ne_backslash value (Nat.le_refl _)

/-- Putting them back gives the body, of which no other backslash is taken. -/
theorem escaped_unquote {mark : QuoteMark} {body : List Char} (h : Body mark.char body) :
    escaped mark.char (unquote mark body) = body := by
  obtain ⟨value, rfl⟩ := h.exists_escaped mark.char_ne_backslash
  rw [unquote_escaped]

/-! ### Quotations in a text -/

/-- The tokens of a proper layout are proper. -/
theorem Layout.Proper.of_mem {l : Layout} (h : l.Proper) {t : Token} (ht : t ∈ l.tokens) : t.Proper := by
  induction h with
  | blanks _ => simp [tokens] at ht
  | token _ hfirst _ _ ih => exact (List.mem_cons.1 ht).elim (fun he => he ▸ hfirst) ih

namespace Quotation

/-- What is read where a quotation is written. -/
def assignment (q : Quotation) : Assignment := ⟨q.key, .quoted q.mark (escaped q.mark.char q.value)⟩

/-- A quotation is a token without blanks. -/
def token (q : Quotation) : Token := ⟨q.key, [], [], .quoted q.mark (escaped q.mark.char q.value)⟩

theorem text_token (q : Quotation) : q.token.text = q.text := by
  simp [token, Token.text, Operand.text, text, written]

theorem Proper.token {q : Quotation} (h : q.Proper) : q.token.Proper := by
  have hmark : q.mark.char ≠ '\n' := by cases q.mark <;> decide
  exact ⟨h.key_ne, h.key, isBlankRun_nil, isBlankRun_nil, .quoted (body_escaped hmark h.value)⟩

/-- Behind blanks, too, joined quotations are laid out properly, and read as they were given. -/
theorem Joined.exists_layout {quotations : List Quotation} {text : List Char} (h : Joined quotations text)
    (hproper : ∀ q ∈ quotations, q.Proper) {lead : List Char} (hlead : IsBlankRun lead) :
    ∃ l : Layout, l.Proper ∧ l.text = lead ++ text ∧ l.assignments = quotations.map assignment := by
  induction h generalizing lead with
  | none => exact ⟨.blanks lead, .blanks hlead, (List.append_nil lead).symm, rfl⟩
  | last q =>
    have hq := (hproper q (List.mem_singleton_self q)).token
    refine ⟨.token lead q.token (.blanks []), .token hlead hq ?_ (.blanks isBlankRun_nil), ?_, rfl⟩
    · simp [EndsValue, Layout.text]
    · simp [Layout.text, text_token]
  | @more q next rest run text hne hrun _ ih =>
    have hq := (hproper q (List.mem_cons_self ..)).token
    obtain ⟨l, hl, htext, hassignments⟩ := ih (fun r hr => hproper r (List.mem_cons_of_mem q hr)) hrun
    refine ⟨.token lead q.token l, .token hlead hq ?_ hl, ?_, ?_⟩
    · -- The run before the next quotation ends this one.
      obtain ⟨c, cs, rfl⟩ := List.exists_cons_of_ne_nil hne
      intro d hd
      obtain rfl : c = d := by simpa [htext] using hd
      exact hrun c (List.mem_cons_self ..)
    · rw [Layout.text, htext, text_token]
      simp
    · show q.assignment :: l.assignments = _
      rw [hassignments, ← List.map_cons]

theorem lastValue?_cons (q : Quotation) (rest : List Quotation) (key : List Char) :
    lastValue? (q :: rest) key =
      (lastValue? rest key).or (if q.key = key then some q.value else none) := by
  unfold lastValue?
  rw [List.reverse_cons, List.find?_append, Option.map_or]
  by_cases h : q.key = key <;> simp [h]

/-- Assigned one after another, quotations leave every key the value of its last. -/
theorem assignAll_quotations (scope : Scope) (unset : String → Value) (table : Attributes)
    (quotations : List Quotation) {bindings : Bindings} (hdistinct : bindings.Distinct) :
    ∃ assigned, assignAll scope unset bindings (quotations.map assignment) table = .ok assigned ∧
      assigned.Distinct ∧
      ∀ name, assigned.get? name =
        ((lastValue? quotations name.toList).map fun value => .text (String.ofList value)).or
          (bindings.get? name) := by
  induction quotations generalizing bindings with
  | nil => exact ⟨bindings, rfl, hdistinct, fun name => rfl⟩
  | cons q rest ih =>
    obtain ⟨assigned, hassigned, hdistinct', hget⟩ :=
      ih (hdistinct.insert (String.ofList q.key) (.text (String.ofList q.value)))
    refine ⟨assigned, ?_, hdistinct', fun name => ?_⟩
    · rw [← hassigned, List.map_cons, assignAll]
      simp only [assignment, Operand.value, unquote_escaped]
    · have hkey : name = String.ofList q.key ↔ q.key = name.toList :=
        ⟨fun h => by rw [h, String.toList_ofList], fun h => by rw [h, String.ofList_toList]⟩
      rw [hget, Bindings.get?_insert, lastValue?_cons]
      simp only [hkey]
      cases lastValue? rest name.toList with
      | some value => rfl
      | none => by_cases h : q.key = name.toList <;> simp [h]

end Quotation

/-- Quotations and what they stand for. Joined by blanks, quotations of values without backslashes are
accepted, and in every scope each key is bound to its last value and nothing else is bound. In a text that is
accepted, the value of a quoted token with a backslash before every mark of it is the body of the token
again, so that two bodies in the same marks stand for two values. -/
theorem bindArguments_quoted :
    (∀ quotations text, (∀ q ∈ quotations, q.Proper) → Quotation.Joined quotations text →
      (∀ tag, checkArguments tag text = .ok ()) ∧
      ∀ scope unset table, ∃ bindings, bindArguments scope unset text table = .ok bindings ∧ bindings.Distinct ∧
        ∀ name, bindings.get? name =
          (Quotation.lastValue? quotations name.toList).map fun value => .text (String.ofList value)) ∧
    (∀ tag raw, checkArguments tag raw = .ok () →
      ∃ l : Layout, l.Proper ∧ l.text = raw ∧
        (∀ scope unset table,
          bindArguments scope unset raw table = assignAll scope unset [] l.assignments table) ∧
        ∀ t ∈ l.tokens, ∀ mark body, t.operand = .quoted mark body →
          ∃ value, escaped mark.char value = body ∧
            ∀ scope unset table, t.operand.value scope unset table = .ok (.text (String.ofList value))) ∧
    ∀ (mark : QuoteMark) body body', Body mark.char body → Body mark.char body' → ∀ scope unset table,
      (Operand.quoted mark body).value scope unset table = (Operand.quoted mark body').value scope unset table →
      body = body' := by
  refine ⟨fun quotations text hproper hjoined => ?_, fun tag raw haccepted => ?_, ?_⟩
  · obtain ⟨l, hl, htext, hassignments⟩ := hjoined.exists_layout hproper isBlankRun_nil
    rw [List.nil_append] at htext
    refine ⟨fun tag => checkArguments_eq_ok.2 (isWellFormed_iff.2 ⟨l, hl, htext⟩), fun scope unset table => ?_⟩
    obtain ⟨bindings, hbound, hdistinct, hget⟩ :=
      Quotation.assignAll_quotations scope unset table quotations Bindings.distinct_nil
    refine ⟨bindings, ?_, hdistinct, fun name => ?_⟩
    · rw [← htext, bindArguments_text hl, hassignments, hbound]
    · rw [hget]
      exact Option.or_none
  · obtain ⟨l, hl, rfl⟩ := isWellFormed_iff.1 (checkArguments_eq_ok.1 haccepted)
    refine ⟨l, hl, rfl, bindArguments_text hl, fun t ht mark body hoperand => ?_⟩
    have hbody : Body mark.char body := by
      have hproper := (hl.of_mem ht).operand
      rw [hoperand] at hproper
      cases hproper with
      | quoted hbody => exact hbody
    refine ⟨unquote mark body, escaped_unquote hbody, fun scope unset table => ?_⟩
    rw [hoperand, Operand.value]
  · intro mark body body' hbody hbody' scope unset table hvalue
    simp only [Operand.value, Except.ok.injEq, Value.text.injEq, String.ofList_inj] at hvalue
    rw [← escaped_unquote hbody, hvalue, escaped_unquote hbody']

/-- Of two quotations of one key, with a mark, an equal sign and a line feed in their values, the second
counts. -/
theorem bindArguments_quoted_twice :
    let text := "a=\"b='c' \\\"\" \ta='it\\'s\n'".toList
    checkArguments "include_file" text = .ok () ∧
    ∀ scope unset table, ∃ bindings, bindArguments scope unset text table = .ok bindings ∧
      bindings.get? "a" = some (.text "it's\n") := by
  intro text
  let first : Quotation := ⟨['a'], .double, "b='c' \"".toList⟩
  let second : Quotation := ⟨['a'], .single, "it's\n".toList⟩
  have hkey : ∀ c ∈ ['a'], Assignment.isKeyChar c = true := List.all_eq_true.1 (by decide)
  have hproper : ∀ q ∈ [first, second], q.Proper := by
    intro q hq
    simp only [List.mem_cons, List.not_mem_nil, or_false] at hq
    rcases hq with rfl | rfl
    · exact ⟨by decide, hkey, by decide⟩
    · exact ⟨by decide, hkey, by decide⟩
  have hrun : IsBlankRun [' ', '\t'] :=
    show ∀ c ∈ [' ', '\t'], Text.isAsciiBlank c = true from List.all_eq_true.1 (by decide)
  have hjoined : Quotation.Joined [first, second] text :=
    .more first (List.cons_ne_nil ' ' ['\t']) hrun (.last second)
  obtain ⟨haccepted, hbound⟩ := bindArguments_quoted.1 _ _ hproper hjoined
  refine ⟨haccepted _, fun scope unset table => ?_⟩
  obtain ⟨bindings, hbindings, -, hget⟩ := hbound scope unset table
  exact ⟨bindings, hbindings, hget "a"⟩

end Transclusion.Directive

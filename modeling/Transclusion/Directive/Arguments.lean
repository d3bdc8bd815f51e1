import Transclusion.Text.Blank
import Transclusion.Text.Cut

/-! Directive arguments.

The arguments of a directive are a sequence of assignments, each a key, an equal
sign and a value. A value is quoted text, in which a backslash keeps the next
character from ending it, or the bare name of a variable. Blanks around the
equal sign do not count, and a value is followed by a blank or the end.

Two readers share the grammar. One accepts only a text that is assignments from
end to end (`parse?`); the other picks the assignments out of any text
(`occurrences`). -/
namespace Transclusion.Directive

/-- The mark that a quoted value stands between. -/
inductive QuoteMark where
  | single
  | double
  deriving DecidableEq, Repr

def QuoteMark.char : QuoteMark → Char
  | single => '\''
  | double => '"'

/-- A value as it is written. -/
inductive Operand where
  /-- Quoted text; the body is what stands between the marks. -/
  | quoted (mark : QuoteMark) (body : List Char)
  /-- The name of a variable. -/
  | bare (name : List Char)
  deriving DecidableEq, Repr

/-- One key with its value. -/
structure Assignment where
  key : List Char
  operand : Operand
  deriving DecidableEq, Repr

namespace Assignment

def isKeyChar (c : Char) : Bool := c.isAlphanum || c == '_' || c == '-'

def isBareChar (c : Char) : Bool := c.isAlphanum || c == '_' || c == '.' || c == '-'

/-- The body of a quoted value up to its closing mark, and what follows the mark. A backslash and
the character behind it, which is no line feed, belong to the body together. -/
def body? (mark : Char) : List Char → Option (List Char × List Char)
  | [] => none
  | c :: cs =>
    if c = mark then some ([], cs)
    else if c = '\\' then
      match cs with
      | [] => none
      | d :: ds => if d = '\n' then none else (body? mark ds).map fun (b, rest) => (c :: d :: b, rest)
    else (body? mark cs).map fun (b, rest) => (c :: b, rest)

/-- A value at the start of the text, and what follows it. -/
def operand? : List Char → Option (Operand × List Char)
  | '"' :: cs => (body? '"' cs).map fun (b, rest) => (.quoted .double b, rest)
  | '\'' :: cs => (body? '\'' cs).map fun (b, rest) => (.quoted .single b, rest)
  | cs =>
    let name := cs.takeWhile isBareChar
    if name = [] then none else some (.bare name, cs.dropWhile isBareChar)

/-- An equal sign with the blanks around it taken away. -/
def afterEqual? (cs : List Char) : Option (List Char) :=
  match cs.dropWhile Text.isAsciiBlank with
  | '=' :: rest => some (rest.dropWhile Text.isAsciiBlank)
  | _ => none

/-- An assignment at the start of the text, and what follows it. -/
def read? (cs : List Char) : Option (Assignment × List Char) :=
  let key := cs.takeWhile isKeyChar
  if key = [] then none
  else do
    let rest ← afterEqual? (cs.dropWhile isKeyChar)
    let (operand, rest) ← operand? rest
    some (⟨key, operand⟩, rest)

theorem body?_length {mark : Char} {cs b rest : List Char} (h : body? mark cs = some (b, rest)) :
    rest.length < cs.length := by
  fun_induction body? mark cs generalizing b with
  | case1 => simp at h
  | case2 => simp_all
  | case3 => simp at h
  | case4 => simp at h
  | case5 _ _ _ _ ih | case6 _ _ _ _ ih =>
    simp only [Option.map_eq_some_iff, Prod.mk.injEq] at h
    obtain ⟨⟨b', r⟩, hb, rfl, rfl⟩ := h
    have := ih hb
    simp only [List.length_cons] at this ⊢; omega

theorem operand?_length {cs rest : List Char} {o : Operand} (h : operand? cs = some (o, rest)) :
    rest.length < cs.length := by
  unfold operand? at h
  split at h
  · simp only [Option.map_eq_some_iff, Prod.mk.injEq] at h
    obtain ⟨⟨b, r⟩, hb, -, rfl⟩ := h
    have := body?_length hb
    simp only [List.length_cons]; omega
  · simp only [Option.map_eq_some_iff, Prod.mk.injEq] at h
    obtain ⟨⟨b, r⟩, hb, -, rfl⟩ := h
    have := body?_length hb
    simp only [List.length_cons]; omega
  · simp only at h
    split at h
    · simp at h
    · next hne =>
      simp only [Option.some.injEq, Prod.mk.injEq] at h
      obtain ⟨-, rfl⟩ := h
      have hl := congrArg List.length (List.takeWhile_append_dropWhile (p := isBareChar) (l := cs))
      have := List.length_pos_iff.2 hne
      rw [List.length_append] at hl
      omega

theorem dropWhile_length_le (p : Char → Bool) (cs : List Char) :
    (cs.dropWhile p).length ≤ cs.length := (List.dropWhile_sublist p).length_le

/-- What follows an assignment is shorter. -/
theorem read?_length {cs rest : List Char} {a : Assignment} (h : read? cs = some (a, rest)) :
    rest.length < cs.length := by
  unfold read? at h
  simp only at h
  split at h
  · simp at h
  · simp only [Option.bind_eq_bind, Option.bind_eq_some_iff, Option.some.injEq, Prod.mk.injEq] at h
    obtain ⟨r, hr, ⟨o, r'⟩, ho, -, hr'⟩ := h
    have h₁ : r'.length < r.length := operand?_length ho
    have h₂ : r.length ≤ (cs.dropWhile isKeyChar).length := by
      unfold afterEqual? at hr
      split at hr
      · next rest he =>
        simp only [Option.some.injEq] at hr
        subst hr
        have h₃ := dropWhile_length_le Text.isAsciiBlank (cs.dropWhile isKeyChar)
        have h₄ := dropWhile_length_le Text.isAsciiBlank rest
        rw [he, List.length_cons] at h₃
        omega
      · simp at hr
    have h₃ := dropWhile_length_le isKeyChar cs
    have h₄ : r' = rest := hr'
    rw [← h₄]
    omega

end Assignment

/-- The assignments that an argument text consists of, if it does. -/
def parse? (cs : List Char) : Option (List Assignment) :=
  let cs' := cs.dropWhile Text.isAsciiBlank
  if cs' = [] then some []
  else match h : Assignment.read? cs' with
    | none => none
    | some (assignment, rest) =>
      have : rest.length < cs.length := by
        have h₁ := Assignment.read?_length h
        have h₂ := Assignment.dropWhile_length_le Text.isAsciiBlank cs
        simp only [cs'] at h₁
        omega
      if rest = [] ∨ Text.isAsciiBlank (rest.headD ' ') then
        (parse? rest).map (assignment :: ·)
      else none
termination_by cs.length

def isWellFormed (cs : List Char) : Bool := (parse? cs).isSome

/-- The assignments that occur in a text, from left to right and without overlap. -/
def occurrences (cs : List Char) : List Assignment :=
  match h : Assignment.read? cs with
  | some (assignment, rest) =>
    have := Assignment.read?_length h
    assignment :: occurrences rest
  | none => match cs with
    | [] => []
    | _ :: cs => occurrences cs
termination_by cs.length

/-- The text that a quoted value stands for: a backslash before the mark is taken away. -/
def unquote (mark : QuoteMark) (body : List Char) : List Char :=
  Text.replaceAll ['\\', mark.char] [mark.char] body

end Transclusion.Directive

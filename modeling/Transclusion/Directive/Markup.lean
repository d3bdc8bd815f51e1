import Transclusion.Text.Blank

/-! Directive markup.

The markup of a directive is a file reference, and behind it the arguments. A
plain reference ends at the first blank. A *templated* reference holds one or
more markers — an expression in double braces — and ends with the last of them:
blanks inside a marker belong to it, and so does everything up to the last
closing braces once a marker has a bar. What is left of the markup is the
arguments; blanks around either part do not count. -/
namespace Transclusion.Directive

/-- A directive's markup, taken apart. -/
structure Markup where
  reference : List Char
  /-- The text behind the reference, if it is not blank. -/
  arguments : Option (List Char)
  isTemplated : Bool
  deriving DecidableEq, Repr

/-- The characters of a dotted name. -/
def isNameChar (c : Char) : Bool := c.isAlphanum || c == '_' || c == '.' || c == '-'

/-- The characters that may follow a marker within the reference. -/
def isTailChar (c : Char) : Bool := !Text.isBlank c && c != '{' && c != '}'

/-- The text up to and including the last closing braces, and what follows them. -/
def cutAfterLastBraces? : List Char → Option (List Char × List Char)
  | [] => none
  | c :: cs =>
    match cutAfterLastBraces? cs with
    | some (before, after) => some (c :: before, after)
    | none => match c, cs with
      | '}', '}' :: after => some (['}', '}'], after)
      | _, _ => none

/-- The closing of a marker: braces at once, or a bar and all up to the last braces. -/
def closing? : List Char → Option (List Char × List Char)
  | '}' :: '}' :: rest => some (['}', '}'], rest)
  | '|' :: rest => (cutAfterLastBraces? rest).map fun (before, after) => ('|' :: before, after)
  | _ => none

/-- One marker with the characters that cling to it, and what follows. -/
def marker? : List Char → Option (List Char × List Char)
  | '{' :: '{' :: cs =>
    let blanks := cs.takeWhile Text.isBlank
    let cs := cs.dropWhile Text.isBlank
    let name := cs.takeWhile isNameChar
    let cs := cs.dropWhile isNameChar
    if name = [] then none
    else
      let more := cs.takeWhile Text.isBlank
      (closing? (cs.dropWhile Text.isBlank)).map fun (close, cs) =>
        (['{', '{'] ++ blanks ++ name ++ more ++ close ++ cs.takeWhile isTailChar,
          cs.dropWhile isTailChar)
  | _ => none

theorem cutAfterLastBraces?_eq {cs before after : List Char}
    (h : cutAfterLastBraces? cs = some (before, after)) : cs = before ++ after := by
  induction cs generalizing before with
  | nil => simp [cutAfterLastBraces?] at h
  | cons c cs ih =>
    unfold cutAfterLastBraces? at h
    split at h
    · next b a hb =>
      simp only [Option.some.injEq, Prod.mk.injEq] at h
      obtain ⟨rfl, rfl⟩ := h
      simp [ih hb]
    · split at h
      · simp only [Option.some.injEq, Prod.mk.injEq] at h
        obtain ⟨rfl, rfl⟩ := h
        simp
      · simp at h

theorem closing?_eq {cs close rest : List Char} (h : closing? cs = some (close, rest)) :
    cs = close ++ rest := by
  unfold closing? at h
  split at h
  · simp only [Option.some.injEq, Prod.mk.injEq] at h
    obtain ⟨rfl, rfl⟩ := h
    simp
  · simp only [Option.map_eq_some_iff, Prod.mk.injEq] at h
    obtain ⟨⟨b, a⟩, hb, rfl, rfl⟩ := h
    simp [cutAfterLastBraces?_eq hb]
  · simp at h

/-- A marker and what follows it are the text. -/
theorem marker?_eq {cs marker rest : List Char} (h : marker? cs = some (marker, rest)) :
    cs = marker ++ rest ∧ marker ≠ [] := by
  unfold marker? at h
  split at h
  · next cs =>
    simp only at h
    split at h
    · simp at h
    · simp only [Option.map_eq_some_iff, Prod.mk.injEq] at h
      obtain ⟨⟨close, r⟩, hc, rfl, rfl⟩ := h
      have := closing?_eq hc
      constructor
      · simp only [List.append_assoc, List.cons_append, List.nil_append,
          List.takeWhile_append_dropWhile]
        rw [← this, List.takeWhile_append_dropWhile, List.takeWhile_append_dropWhile,
          List.takeWhile_append_dropWhile]
      · simp
  · simp at h

/-- The markers that the text starts with, and what follows them. -/
def markers (cs : List Char) : List Char × List Char :=
  match h : marker? cs with
  | none => ([], cs)
  | some (marker, rest) =>
    have : rest.length < cs.length := by
      have := marker?_eq h
      rw [this.1, List.length_append]
      have := List.length_pos_iff.2 this.2
      omega
    let (more, rest) := markers rest
    (marker ++ more, rest)
termination_by cs.length

/-- The templated reference that the text starts with, and what follows it. The reference may have
any text without an opening brace before its first marker. -/
def cutTemplated? (cs : List Char) : Option (List Char × List Char) :=
  let lead := cs.takeWhile (· ≠ '{')
  let (found, rest) := markers (cs.dropWhile (· ≠ '{'))
  if found = [] then none else some (lead ++ found, rest)

def isTemplated (reference : List Char) : Bool := (cutTemplated? reference).isSome

def nonEmpty? (cs : List Char) : Option (List Char) := if cs = [] then none else some cs

def Markup.of (markup : List Char) : Markup :=
  let text := Text.strip markup
  match cutTemplated? text with
  | some (reference, rest) => ⟨Text.strip reference, nonEmpty? (Text.strip rest), true⟩
  | none =>
    let isInk c := !Text.isBlank c
    ⟨text.takeWhile isInk, nonEmpty? (Text.strip (text.dropWhile isInk)), false⟩

end Transclusion.Directive

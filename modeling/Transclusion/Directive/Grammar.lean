import Transclusion.Directive.Arguments

/-! The grammar of arguments.

What an argument text may look like, said without a reader. A *layout* is the text
taken apart: tokens with blanks before each of them and behind the last, and a
token is a key, an equal sign and a value with the blanks between them. A layout
is proper if its parts are of the characters that they may consist of, and if
behind each token there is a blank or the end. A value that holds no backslash is
written in quotes by putting a backslash before every mark of its own
(`written`), and such quotations are joined by blanks (`Quotation.Joined`). -/
namespace Transclusion.Directive

/-- The bodies of values between marks: characters other than the mark and the backslash, and pairs of
a backslash and a character that is no line feed. -/
inductive Body (mark : Char) : List Char → Prop
  | empty : Body mark []
  | plain {c : Char} {cs : List Char} : c ≠ mark → c ≠ '\\' → Body mark cs → Body mark (c :: cs)
  | pair {c : Char} {cs : List Char} : c ≠ '\n' → Body mark cs → Body mark ('\\' :: c :: cs)

/-- A text that holds blanks only. -/
def IsBlankRun (cs : List Char) : Prop := ∀ c ∈ cs, Text.isAsciiBlank c = true

/-- A text that begins with a blank, or is empty. -/
def EndsValue (cs : List Char) : Prop := ∀ c, cs.head? = some c → Text.isAsciiBlank c = true

namespace Operand

def text : Operand → List Char
  | quoted mark body => mark.char :: body ++ [mark.char]
  | bare name => name

inductive Proper : Operand → Prop
  | quoted {mark : QuoteMark} {body : List Char} : Body mark.char body → Proper (.quoted mark body)
  | bare {name : List Char} :
    name ≠ [] → (∀ c ∈ name, Assignment.isBareChar c = true) → Proper (.bare name)

end Operand

/-- An assignment as it stands in a text, with the blanks around its equal sign. -/
structure Token where
  key : List Char
  before : List Char
  after : List Char
  operand : Operand
  deriving DecidableEq, Repr

namespace Token

def assignment (t : Token) : Assignment := ⟨t.key, t.operand⟩

def text (t : Token) : List Char := t.key ++ t.before ++ '=' :: t.after ++ t.operand.text

structure Proper (t : Token) : Prop where
  key_ne : t.key ≠ []
  key : ∀ c ∈ t.key, Assignment.isKeyChar c = true
  before : IsBlankRun t.before
  after : IsBlankRun t.after
  operand : t.operand.Proper

end Token

/-- An argument text taken apart. -/
inductive Layout where
  | blanks (run : List Char)
  /-- Blanks, a token, and what follows it. -/
  | token (lead : List Char) (t : Token) (rest : Layout)
  deriving DecidableEq, Repr

namespace Layout

def text : Layout → List Char
  | blanks run => run
  | token lead t rest => lead ++ t.text ++ rest.text

def tokens : Layout → List Token
  | blanks _ => []
  | token _ t rest => t :: rest.tokens

/-- The assignments that are laid out, in order. -/
def assignments (l : Layout) : List Assignment := l.tokens.map Token.assignment

inductive Proper : Layout → Prop
  | blanks {run : List Char} : IsBlankRun run → Proper (.blanks run)
  | token {lead : List Char} {t : Token} {rest : Layout} :
    IsBlankRun lead → t.Proper → EndsValue rest.text → Proper rest → Proper (.token lead t rest)

end Layout

/-- A value with a backslash before every mark. -/
def escaped (mark : Char) (value : List Char) : List Char :=
  value.flatMap fun c => if c = mark then ['\\', c] else [c]

/-- A key and its value in quotes. -/
def written (key : List Char) (mark : QuoteMark) (value : List Char) : List Char :=
  key ++ '=' :: mark.char :: escaped mark.char value ++ [mark.char]

/-- A key and the value that it is given in quotes. -/
structure Quotation where
  key : List Char
  mark : QuoteMark
  value : List Char
  deriving DecidableEq, Repr

namespace Quotation

def text (q : Quotation) : List Char := written q.key q.mark q.value

/-- The value may be anything but a text with a backslash. -/
structure Proper (q : Quotation) : Prop where
  key_ne : q.key ≠ []
  key : ∀ c ∈ q.key, Assignment.isKeyChar c = true
  value : '\\' ∉ q.value

/-- The quotations one behind the other, with blanks between any two. -/
inductive Joined : List Quotation → List Char → Prop
  | none : Joined [] []
  | last (q : Quotation) : Joined [q] q.text
  | more (q : Quotation) {next : Quotation} {rest : List Quotation} {run text : List Char} :
      run ≠ [] → IsBlankRun run → Joined (next :: rest) text →
      Joined (q :: next :: rest) (q.text ++ run ++ text)

/-- The value that the last quotation of a key gives it. -/
def lastValue? (quotations : List Quotation) (key : List Char) : Option (List Char) :=
  (quotations.reverse.find? (·.key = key)).map Quotation.value

end Quotation

end Transclusion.Directive

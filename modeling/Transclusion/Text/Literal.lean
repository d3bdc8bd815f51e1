import Transclusion.Text.Quoted

/-! String literals.

A text is written between quotation marks so that a lexer reads it back as one
token: a backslash before a quotation mark or a backslash, the five short forms
for backspace, form feed, line feed, carriage return and tab, and four
hexadecimal digits for the other controls. Characters beyond ASCII stand as
they are in a transparent literal and are written by their UTF-16 units in an
ASCII one, which treats the delete character alike. -/
namespace Transclusion.Text

/-- Which characters beyond the controls a literal writes by code point. -/
inductive LiteralStyle where
  /-- Only the controls. -/
  | transparent
  /-- Everything that is not ASCII. -/
  | ascii
  deriving DecidableEq

/-- The form by code point of one UTF-16 unit. -/
def unitEscape (n : Nat) : List Char := '\\' :: 'u' :: hexDigits 4 n

def literalChar (style : LiteralStyle) (c : Char) : List Char :=
  if c = '"' ∨ c = '\\' then ['\\', c]
  else if c = '\n' then ['\\', 'n']
  else if c = '\r' then ['\\', 'r']
  else if c = '\t' then ['\\', 't']
  else if c.toNat = 8 then ['\\', 'b']
  else if c.toNat = 0xc then ['\\', 'f']
  else if c.toNat < 0x20 then unitEscape c.toNat
  else if c.toNat < 0x7f ∨ style = .transparent then [c]
  else if c.toNat < 0x10000 then unitEscape c.toNat
  else
    let n := c.toNat - 0x10000
    unitEscape (0xd800 + n / 0x400) ++ unitEscape (0xdc00 + n % 0x400)

/-- The literal of a text, its quotation marks included. -/
def literal (style : LiteralStyle) (cs : List Char) : List Char :=
  '"' :: cs.flatMap (literalChar style) ++ ['"']

end Transclusion.Text

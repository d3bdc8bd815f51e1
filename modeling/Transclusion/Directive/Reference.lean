import Transclusion.Path

/-! File references.

A reference names a file below a search root. It is *safe* when it holds
letters, digits, underscores, hyphens, dots and slashes only, and no two dots or
slashes in a row: such a reference cannot name a parent directory. -/
namespace Transclusion.Directive

def isReferenceChar (c : Char) : Bool :=
  c.isAlphanum || c == '_' || c == '.' || c == '/' || c == '-'

def isDotOrSlash (c : Char) : Bool := c == '.' || c == '/'

/-- Whether two dots or slashes stand side by side. -/
def hasDotSlashPair : List Char → Bool
  | c :: d :: cs => (isDotOrSlash c && isDotOrSlash d) || hasDotSlashPair (d :: cs)
  | _ => false

def isSafeReference (reference : List Char) : Bool :=
  !hasDotSlashPair reference && reference ≠ [] && reference.all isReferenceChar

/-- The path that a reference names below a root. -/
def joinReference (root : Path) (reference : List Char) : Path := root.below reference

end Transclusion.Directive

import Transclusion.Trace

/-! One-time notices.

A notice is announced under a key, once; whoever keeps the notices decides how
long "once" lasts. -/
namespace Transclusion.Directive

/-- The keys announced so far, the latest first. -/
structure Notices where
  shown : List String
  deriving DecidableEq, Repr, Inhabited

namespace Notices

def empty : Notices := ⟨[]⟩

def has (n : Notices) (key : String) : Bool := n.shown.contains key

def wording : String := "\x7bnotice\x7d: \x7bdetail\x7d"

def record (tag key detail : String) (particulars : Bindings) : Record :=
  ⟨.warn, tag, wording, [("notice", .text key), ("detail", .text detail)] ++ particulars⟩

/-- Announces a notice unless its key has been announced; gives the record if it was. -/
def announce (n : Notices) (tag key detail : String) (particulars : Bindings) :
    Notices × Option Record :=
  if n.has key then (n, none) else (⟨key :: n.shown⟩, some (record tag key detail particulars))

end Notices

end Transclusion.Directive

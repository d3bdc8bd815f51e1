import Transclusion.Text.Cut

/-! Paths.

A path is an anchor and a list of segments. Repeated slashes and segments that
name the same directory (`.`) do not count; a segment naming the parent (`..`)
stays, because following it takes a file system. Two leading slashes are an
anchor of their own, more than two are one. Joining a text that is itself
anchored forgets the left side; references are joined without their leading
slashes, so they never do that. -/
namespace Transclusion

/-- Whether a text may stand between two slashes of a printed path. -/
def isSegment (cs : List Char) : Bool := cs ≠ [] ∧ cs ≠ ['.'] ∧ '/' ∉ cs

/-- What stands between two slashes of a printed path. -/
structure Segment where
  name : List Char
  proper : isSegment name = true
  deriving DecidableEq

namespace Segment

/-- The segment of a text, if it is one. -/
def of? (cs : List Char) : Option Segment :=
  if h : isSegment cs = true then some ⟨cs, h⟩ else none

/-- The segment that names the parent directory. -/
def parent : Segment := ⟨['.', '.'], rfl⟩

@[simp] theorem of?_name (s : Segment) : of? s.name = some s := by
  simp [of?, s.proper]

theorem of?_eq_some {cs : List Char} {s : Segment} (h : of? cs = some s) : s.name = cs := by
  unfold of? at h
  split at h
  · simp only [Option.some.injEq] at h
    rw [← h]
  · exact absurd h (by simp)

end Segment

def segmentsOf (cs : List Char) : List Segment :=
  (Text.splitOn '/' cs).filterMap Segment.of?

/-- Where a path starts. -/
inductive Anchor where
  /-- At the directory at hand. -/
  | here
  | root
  /-- At the root, by two slashes. -/
  | doubleRoot
  deriving DecidableEq

namespace Anchor

def of : List Char → Anchor
  | '/' :: '/' :: '/' :: _ => .root
  | '/' :: '/' :: _ => .doubleRoot
  | '/' :: _ => .root
  | _ => .here

def text : Anchor → List Char
  | here => []
  | root => ['/']
  | doubleRoot => ['/', '/']

end Anchor

structure Path where
  anchor : Anchor
  segments : List Segment
  deriving DecidableEq

namespace Path

def of (cs : List Char) : Path := ⟨Anchor.of cs, segmentsOf cs⟩

def ofString (s : String) : Path := of s.toList

def names (p : Path) : List (List Char) := p.segments.map Segment.name

/-- The anchor, if there is one, and the names. -/
def parts (p : Path) : List (List Char) :=
  match p.anchor with
  | .here => p.names
  | anchor => anchor.text :: p.names

/-- The printed path; the empty one is a single dot. -/
def text (p : Path) : List Char :=
  match p.anchor, p.names with
  | .here, [] => ['.']
  | anchor, names => anchor.text ++ Text.joinWith '/' names

def toString (p : Path) : String := String.ofList p.text

instance : ToString Path := ⟨toString⟩

def isAbsolute (p : Path) : Bool := p.anchor ≠ .here

/-- The path of `cs` seen from `p`. -/
def join (p : Path) (cs : List Char) : Path :=
  match Anchor.of cs with
  | .here => ⟨p.anchor, p.segments ++ segmentsOf cs⟩
  | anchor => ⟨anchor, segmentsOf cs⟩

/-- One path seen from another. -/
def append (p q : Path) : Path :=
  match q.anchor with
  | .here => ⟨p.anchor, p.segments ++ q.segments⟩
  | _ => q

/-- The directory that holds the last segment. -/
def parent (p : Path) : Path := ⟨p.anchor, p.segments.dropLast⟩

def withoutLeadingSlashes (cs : List Char) : List Char := cs.dropWhile (· == '/')

/-- Joins a text below `p`: its leading slashes are dropped, so it never replaces `p`. -/
def below (p : Path) (cs : List Char) : Path := p.join (withoutLeadingSlashes cs)

/-- Joins texts below `p`, one after another. -/
def belowAll (p : Path) (texts : List (List Char)) : Path := texts.foldl below p

theorem anchor_withoutLeadingSlashes (cs : List Char) :
    Anchor.of (withoutLeadingSlashes cs) = .here := by
  induction cs with
  | nil => rfl
  | cons c cs ih =>
    by_cases h : c = '/'
    · subst h
      simpa [withoutLeadingSlashes] using ih
    · have : withoutLeadingSlashes (c :: cs) = c :: cs := by
        simp [withoutLeadingSlashes, h]
      rw [this]
      unfold Anchor.of
      split <;> simp_all

/-- Below a path there is nothing but that path's segments followed by further ones. -/
theorem below_eq (p : Path) (cs : List Char) :
    p.below cs = ⟨p.anchor, p.segments ++ segmentsOf (withoutLeadingSlashes cs)⟩ := by
  simp [below, join, anchor_withoutLeadingSlashes]

end Path

end Transclusion

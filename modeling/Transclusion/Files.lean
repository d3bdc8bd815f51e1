import Transclusion.Path
import Transclusion.Text.Encoding

/-! File trees.

A tree maps each place, given by the names on the way from the root, to what
stands there: a file with its bytes, a directory or a symbolic link. A path is
looked up name by name, from the root or from the directory at hand, which is
itself reached without links. A link is replaced by its target, at most forty
times in one lookup; a target that ends with a slash must lead to a directory. A
name has at most 255 bytes. A directory may be barred from being looked through,
and a file from being read. Whatever ends a lookup early has a number and a
wording of its own. -/
namespace Transclusion

/-- What stands at a place of a file tree. -/
inductive Node where
  | file (bytes : List UInt8)
  | directory
  | link (target : List Char)
  deriving DecidableEq

/-- The names on the way from the root. -/
abbrev Place := List (List Char)

/-- What keeps a directory from being looked through, or a file from being read. -/
inductive Barrier where
  /-- The device does not answer. -/
  | unanswered
  /-- It is not permitted. -/
  | denied
  deriving DecidableEq, Repr

/-- Why a path leads to no file, or nothing can be made there. -/
inductive LookupFault where
  | missing
  | barred (why : Barrier)
  | exists_
  | notDirectory
  | isDirectory
  | nameTooLong
  | tooManyLinks
  deriving DecidableEq, Repr

namespace LookupFault

def number : LookupFault → Nat
  | missing => 2
  | barred .unanswered => 5
  | barred .denied => 13
  | exists_ => 17
  | notDirectory => 20
  | isDirectory => 21
  | nameTooLong => 36
  | tooManyLinks => 40

def wording : LookupFault → String
  | missing => "No such file or directory"
  | barred .unanswered => "Input/output error"
  | barred .denied => "Permission denied"
  | exists_ => "File exists"
  | notDirectory => "Not a directory"
  | isDirectory => "Is a directory"
  | nameTooLong => "File name too long"
  | tooManyLinks => "Too many levels of symbolic links"

end LookupFault

/-- What stands at places other than the root. -/
abbrev Nodes := List (Place × Node)

/-- The greatest number of bytes of a name. -/
def nameLimit : Nat := 255

def byteCount (cs : List Char) : Nat := cs.foldl (fun n c => n + c.utf8Size) 0

/-- Places that are reached without a link, through directories alone. -/
inductive Nodes.IsReal (nodes : Nodes) : Place → Prop
  | root : IsReal nodes []
  | child {dir : Place} {s : Segment} (hdir : IsReal nodes dir) (hs : s ≠ .parent)
      (hshort : byteCount s.name ≤ nameLimit) (hnode : nodes.lookup (dir ++ [s.name]) = some .directory) :
      IsReal nodes (dir ++ [s.name])

namespace Nodes

/-- The nodes with another one at a place. -/
def set (nodes : Nodes) (place : Place) (node : Node) : Nodes :=
  if (nodes.lookup place).isSome then nodes.map fun (p, n) => if p = place then (p, node) else (p, n)
  else nodes ++ [(place, node)]

/-- The nodes without those at a place. -/
def without (nodes : Nodes) (place : Place) : Nodes := nodes.filter fun (other, _) => other ≠ place

variable {nodes : Nodes} {place other : Place}

theorem lookup_set_of_ne {node : Node} (h : other ≠ place) :
    (nodes.set place node).lookup other = nodes.lookup other := by
  unfold set
  split
  · next hplace =>
    clear hplace
    induction nodes with
    | nil => rfl
    | cons entry rest ih =>
      obtain ⟨first, found⟩ := entry
      have hkey : (if first = place then (first, node) else (first, found)).1 = first := by split <;> rfl
      rw [List.map_cons, List.lookup_cons, List.lookup_cons, ih, hkey]
      split
      · next heq => rw [if_neg (by rw [← eq_of_beq heq]; exact h)]
      · rfl
  · rw [List.lookup_append, List.lookup_cons, beq_false_of_ne h, List.lookup_nil, Option.or_none]

theorem lookup_without_of_ne (h : other ≠ place) : (nodes.without place).lookup other = nodes.lookup other := by
  unfold without
  induction nodes with
  | nil => rfl
  | cons entry rest ih =>
    obtain ⟨first, found⟩ := entry
    by_cases hfirst : first = place
    · rw [List.filter_cons_of_neg (by simp [hfirst]), ih, List.lookup_cons, hfirst, beq_false_of_ne h]
    · rw [List.filter_cons_of_pos (by simp [hfirst]), List.lookup_cons, List.lookup_cons, ih]

/-- Places stay real as long as directories stay. -/
theorem IsReal.of_directories {nodes' : Nodes} (hreal : nodes.IsReal place)
    (h : ∀ other, nodes.lookup other = some .directory → nodes'.lookup other = some .directory) :
    nodes'.IsReal place := by
  induction hreal with
  | root => exact .root
  | child _ hs hshort hnode ih => exact .child ih hs hshort (h _ hnode)

end Nodes

/-- A file tree: the places other than the root, which is a directory, and the directory at hand. -/
structure Files where
  nodes : Nodes
  /-- Directories that cannot be looked through and files that cannot be read. -/
  barriers : List (Place × Barrier)
  /-- The directory that unanchored paths start at. -/
  workingPlace : Place
  isReal : nodes.IsReal workingPlace

namespace Files

/-- The tree of some places, all of them open, with the root at hand. -/
def ofNodes (nodes : Nodes) : Files := ⟨nodes, [], [], .root⟩

/-- The tree that holds one directory. -/
def withDirectory (name : List Char) : Files := ofNodes [([name], .directory)]

def node? (files : Files) (place : Place) : Option Node :=
  if place = [] then some .directory else files.nodes.lookup place

theorem ne_of_directory {files : Files} {place other : Place} (h : files.node? place ≠ some .directory)
    (hother : files.nodes.lookup other = some .directory) : other ≠ place := by
  rintro rfl
  exact h (by rw [node?, hother, ite_self])

def barrier? (files : Files) (place : Place) : Option Barrier := files.barriers.lookup place

/-- The greatest number of bytes of a printed path. -/
def pathLimit : Nat := 4095

/-- The number of links that one lookup follows. -/
def linkLimit : Nat := 40

/-- Where a lookup of a path starts. -/
def start (files : Files) (anchor : Anchor) : Place := if anchor = .here then files.workingPlace else []

/-- Follows names from a place. `jump` goes on from a link: at a place, with its target and the names
behind it. `absent` answers for a place where nothing stands and the names behind it. -/
def descend (files : Files) (jump : Place → List Char → List Segment → Except LookupFault Place)
    (absent : Place → List Segment → Except LookupFault Place) :
    Place → List Segment → Except LookupFault Place
  | here, [] => .ok here
  | here, s :: rest =>
    match files.node? here, files.barrier? here with
    | some .directory, some why => .error (.barred why)
    | some .directory, none =>
      if s = .parent then descend files jump absent here.dropLast rest
      else if nameLimit < byteCount s.name then .error .nameTooLong
      else match files.node? (here ++ [s.name]) with
        | none => absent (here ++ [s.name]) rest
        | some (.link target) => jump here target rest
        | some _ => descend files jump absent (here ++ [s.name]) rest
    | _, _ => .error .notDirectory

/-- Whether the target of a link asks for a directory. -/
def asksForDirectory (target : List Char) : Bool :=
  target.getLast? == some '/' || ['/', '.'].isSuffixOf target

/-- The place that a link leads to, if its target allows it. -/
def landing (files : Files) (target : List Char) (place : Place) : Except LookupFault Place :=
  if asksForDirectory target then
    match files.node? place with
    | some .directory => .ok place
    | some _ => .error .notDirectory
    | none => .error .isDirectory
  else .ok place

/-- Follows names from a place through at most `links` links. -/
def follow (files : Files) (absent : Place → List Segment → Except LookupFault Place) :
    (links : Nat) → Place → List Segment → Except LookupFault Place
  | 0 => files.descend (fun _ _ _ => .error .tooManyLinks) absent
  | links + 1 => files.descend (fun here target rest => do
      let p := Path.of target
      let place ← files.follow absent links (if p.isAbsolute then [] else here) (p.segments ++ rest)
      -- With names behind it a link has to lead to a directory anyway.
      if rest = [] then files.landing target place else pure place) absent

/-- The place that a path leads to; `absent` answers where nothing stands. -/
def placeOr (files : Files) (absent : Place → List Segment → Except LookupFault Place) (p : Path) :
    Except LookupFault Place :=
  if pathLimit < byteCount p.text then .error .nameTooLong
  else files.follow absent linkLimit (files.start p.anchor) p.segments

def place (files : Files) (p : Path) : Except LookupFault Place :=
  files.placeOr (fun _ _ => .error .missing) p

/-- The place that a path leads to, where something may still have to be made. -/
def newPlace (files : Files) (p : Path) : Except LookupFault Place :=
  files.placeOr (fun place rest => if rest = [] then .ok place else .error .missing) p

/-- What keeps a lookup from answering whether something is a file, rather than making the answer no. -/
def LookupFault.isFatal : LookupFault → Bool
  | .nameTooLong | .barred _ => true
  | _ => false

/-- Whether a path leads to a file. A name that is too long and a directory that is barred are errors, any
other obstacle is a no. -/
def isFile (files : Files) (p : Path) : Except LookupFault Bool :=
  if p.text.contains '\x00' then .ok false
  else match files.place p with
    | .ok place => .ok (match files.node? place with
      | some (.file _) => true
      | _ => false)
    | .error fault => if LookupFault.isFatal fault then .error fault else .ok false

/-- Why nothing can be read, put or taken away at a path. -/
inductive AccessFault where
  | lookup (fault : LookupFault) (path : Path)
  /-- The path holds a NUL. -/
  | nul
  deriving DecidableEq

/-- The bytes of the file that a path leads to. -/
def read (files : Files) (p : Path) : Except AccessFault (List UInt8) :=
  if p.text.contains '\x00' then .error .nul
  else match files.place p with
    | .error fault => .error (.lookup fault p)
    | .ok place => match files.node? place, files.barrier? place with
      | some (.file _), some why => .error (.lookup (.barred why) p)
      | some (.file bytes), none => .ok bytes
      | some .directory, _ => .error (.lookup .isDirectory p)
      | _, _ => .error (.lookup .missing p)

/-- The tree with something else at a place where no directory stands. -/
def set (files : Files) (place : Place) (node : Node) (h : files.node? place ≠ some .directory) : Files :=
  { files with
    nodes := files.nodes.set place node
    isReal := files.isReal.of_directories fun _ hdirectory =>
      (Nodes.lookup_set_of_ne (ne_of_directory h hdirectory)).trans hdirectory }

/-- The tree without what is no directory at a place. -/
def without (files : Files) (place : Place) (h : files.node? place ≠ some .directory) : Files :=
  { files with
    nodes := files.nodes.without place
    isReal := files.isReal.of_directories fun _ hdirectory =>
      (Nodes.lookup_without_of_ne (ne_of_directory h hdirectory)).trans hdirectory }

/-- The place that a path names, without following what stands there. -/
def ownPlace (files : Files) (p : Path) (nameless : LookupFault) : Except LookupFault Place :=
  if pathLimit < byteCount p.text then .error .nameTooLong
  else do
    let here ← files.follow (fun _ _ => .error .missing) linkLimit (files.start p.anchor) p.segments.dropLast
    match files.node? here, files.barrier? here, p.segments.getLast? with
    | some .directory, some why, some _ => .error (.barred why)
    | some .directory, none, some last =>
      if last = .parent then .error nameless
      else if nameLimit < byteCount last.name then .error .nameTooLong
      else .ok (here ++ [last.name])
    | some .directory, _, none => .error nameless
    | _, _, _ => .error .notDirectory

/-- Makes a directory where nothing stands. -/
def makeDirectory (files : Files) (p : Path) : Except LookupFault Files := do
  let place ← files.ownPlace p .exists_
  if h : files.node? place = none then .ok (files.set place .directory (by simp [h])) else .error .exists_

def isDirectory (files : Files) (p : Path) : Bool :=
  match files.place p with
  | .ok place => files.node? place == some .directory
  | .error _ => false

/-- Makes a directory unless it is there, and those on the way; at most `count` are made. -/
def makeDirectories (files : Files) (p : Path) : (count : Nat) → Except AccessFault Files
  | 0 => .ok files
  | count + 1 =>
    match files.makeDirectory p with
    | .ok files => .ok files
    | .error .missing => do
      let files ← files.makeDirectories p.parent count
      match files.makeDirectory p with
      | .ok files => .ok files
      | .error fault => if files.isDirectory p then .ok files else .error (.lookup fault p)
    | .error fault => if files.isDirectory p then .ok files else .error (.lookup fault p)

/-- Puts something where a path leads, making the directories on the way. -/
def put (files : Files) (p : Path) (node : Node) : Except AccessFault Files :=
  if p.text.contains '\x00' then .error .nul
  else match node with
  | .directory => files.makeDirectories p p.segments.length
  | node => do
    let files ← files.makeDirectories p.parent p.parent.segments.length
    let place ← (match node with
      | .link _ => files.ownPlace p .exists_
      | _ => files.newPlace p).mapError (.lookup · p)
    if h : files.node? place = some .directory then .error (.lookup .isDirectory p)
    else .ok (files.set place node h)

/-- Takes away the file or link that a path names. -/
def remove (files : Files) (p : Path) : Except AccessFault Files :=
  if p.text.contains '\x00' then .error .nul
  else do
    let place ← (files.ownPlace p .isDirectory).mapError (.lookup · p)
    if h : files.node? place = some .directory then .error (.lookup .isDirectory p)
    else if files.node? place = none then .error (.lookup .missing p)
    else .ok (files.without place h)

def pathOf (place : Place) : Path := ⟨.root, place.filterMap Segment.of?⟩

/-- A path as it is from the root. -/
def fromRoot (files : Files) (p : Path) : Path := (pathOf files.workingPlace).append p

/-- The path of a directory free of links. Names behind an obstacle are taken as they stand. -/
def realPath (files : Files) (p : Path) : Path :=
  match files.place p with
  | .ok place => pathOf place
  | .error _ => files.fromRoot p

end Files

end Transclusion

import Transclusion.Inclusion.Host

/-! Caches of compiled partials.

A cache keeps what has been compiled under the printed path of the file, so
that spellings of a path that print alike share an entry. A partial is read and
compiled when it is first asked for; a failed attempt leaves no entry. -/
namespace Transclusion.Inclusion

structure Cache (C : Type) where
  entries : List (String × C)
  hits : Nat
  misses : Nat

namespace Cache

variable {C : Type}

def empty : Cache C := ⟨[], 0, 0⟩

def find? (c : Cache C) (key : String) : Option C := c.entries.lookup key

def has (c : Cache C) (key : String) : Bool := (c.find? key).isSome

def size (c : Cache C) : Nat := c.entries.length

/-- One more answer from an entry. -/
def hit (c : Cache C) : Cache C := { c with hits := c.hits + 1 }

/-- One more answer that takes compiling. -/
def miss (c : Cache C) : Cache C := { c with misses := c.misses + 1 }

def insert (c : Cache C) (key : String) (value : C) : Cache C :=
  { c with entries := c.entries ++ [(key, value)] }

@[simp] theorem find?_hit (c : Cache C) (key : String) : c.hit.find? key = c.find? key := rfl

@[simp] theorem find?_miss (c : Cache C) (key : String) : c.miss.find? key = c.find? key := rfl

/-- An entry stays what it is, whatever is inserted later. -/
theorem find?_insert (c : Cache C) (key other : String) (value : C) :
    (c.insert key value).find? other =
      (c.find? other).or (if other = key then some value else none) := by
  simp only [find?, insert, List.lookup_append]
  by_cases h : other = key
  · simp [h]
  · simp [List.lookup_cons, h, beq_false_of_ne h]

@[simp] theorem size_insert (c : Cache C) (key : String) (value : C) :
    (c.insert key value).size = c.size + 1 := by simp [size, insert]

end Cache

/-- A cache and the desk. -/
structure Store (C : Type) where
  cache : Cache C
  desk : Desk

namespace Store

variable {C α : Type}

def onDesk (m : Run Desk α) : Run (Store C) α :=
  .zoom Store.desk (fun desk s => { s with desk }) m

def onCache (f : Cache C → Cache C) : Run (Store C) Unit :=
  .change fun s => { s with cache := f s.cache }

end Store

def readBytes (files : Files) (path : Path) : Run Desk (List UInt8) := do
  note (.read path)
  Run.ofExcept ((files.read path).mapError (.ofAccess))

section
variable {C : Type} (host : Host C)

/-- Compiles bytes; a fault that means they are not accepted is reported for the path. -/
def compilePartial (key : String) (bytes : List UInt8) : Run Desk C := do
  note (.compile key)
  (host.compile (.bytes bytes) key).onFault fun fault =>
    if fault.isInclusion || host.rejects fault then throw (.compilation key fault) else throw fault

def hitRecord (key : String) : Record :=
  ⟨.debug, "partial-cache", "Partial cache hit \x7bpath\x7d", [("path", .text key)]⟩

def compiledRecord (key : String) (size : Nat) : Record :=
  ⟨.debug, "partial-cache", "Compiled partial \x7bpath\x7d", [("path", .text key), ("size", .int size)]⟩

def fetchAnew (files : Files) (path : Path) : Run Desk C := do
  let bytes ← readBytes files path
  let compiled ← compilePartial host path.toString bytes
  record (compiledRecord path.toString bytes.length)
  pure compiled

/-- The compiled partial of a path, from the cache if it is there. -/
def fetch (files : Files) (path : Path) : Run (Store C) C := do
  let key := path.toString
  match (← get).cache.find? key with
  | some compiled =>
    Store.onCache Cache.hit
    Store.onDesk (record (hitRecord key))
    pure compiled
  | none =>
    Store.onCache Cache.miss
    let compiled ← Store.onDesk (fetchAnew host files path)
    Store.onCache (·.insert key compiled)
    pure compiled

end

end Transclusion.Inclusion

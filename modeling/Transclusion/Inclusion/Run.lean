import Transclusion.Fault

/-! Runs.

A run changes a state and ends with a value or with a fault; a fault does not
take back what has been changed. Part of a state can be run by itself, and a run
can be set between an entry and an exit that happens however the run ends. -/
namespace Transclusion.Inclusion

/-- The depth to which runs nest unless something else is said. -/
def nestingLimit : Nat := 1000

/-- From a state to an outcome and a state. -/
abbrev Run (σ α : Type) := ExceptT Fault (StateM σ) α

namespace Run

variable {σ τ α β : Type}

/-- The run that a function of the state describes. -/
def of (f : σ → Except Fault α × σ) : Run σ α := ExceptT.mk f

/-- The outcome of a run and the state behind it. -/
def start (m : Run σ α) (s : σ) : Except Fault α × σ := m s

/-- A run without effect. -/
def ofExcept (e : Except Fault α) : Run σ α := of fun s => (e, s)

def change (f : σ → σ) : Run σ Unit := of fun s => (.ok (), f s)

/-- Runs on a part of the state. -/
def zoom (get : σ → τ) (put : τ → σ → σ) (m : Run τ α) : Run σ α :=
  of fun s =>
    let (outcome, t) := m.start (get s)
    (outcome, put t s)

/-- Changes how a run that stops reports its fault; the change may use the state. -/
def onFault (m : Run σ α) (handle : Fault → Run σ α) : Run σ α :=
  of fun s => match m.start s with
    | (.ok a, t) => (.ok a, t)
    | (.error fault, t) => (handle fault).start t

/-- Lets `after` change the state however the run ends; its fault replaces the outcome. -/
def finallyDo (m : Run σ α) (after : σ → Except Fault σ) : Run σ α :=
  of fun s =>
    let (outcome, t) := m.start s
    match after t with
    | .ok u => (outcome, u)
    | .error fault => (.error fault, t)

end Run

end Transclusion.Inclusion

import Transclusion.Proofs.Lockstep
import Transclusion.Proofs.Paths

/-! Fetching from a cache on a steady host.

Compiling may read the desk, and may change it. A host is steady for a relation
between desks if compiling comes to the same on related desks, and if neither
compiling nor an event leads from a desk to an unrelated one. What finding and
compiling a partial do they then do alike on related desks. So a cache whose
entries are what compiling anew comes to (`Cache.Sound`) stays one, and whatever
is fetched through it is what compiling anew comes to (`agree_fetch_anew`). -/
namespace Transclusion.Inclusion
open Directive

variable {C : Type}

/-- A host that compiles alike on desks that `same` relates, and keeps to related ones. -/
structure Host.Steady (host : Host C) (same : Desk → Desk → Prop) : Prop where
  lasting : Lasting host (fun _ => True) same
  symm {d e : Desk} : same d e → same e d
  compile (source : Source) (name : String) :
    (host.compile source name).Agree same (host.compile source name)

/-- What a cache holds is what compiling anew comes to. -/
def Cache.Sound (host : Host C) (same : Desk → Desk → Prop) (files : Files) (c : Cache C) (d : Desk) : Prop :=
  ∀ path compiled, c.find? path.toString = some compiled →
    ∀ e, same d e → ((fetchAnew host files path).start e).1 = .ok compiled

theorem Cache.sound_empty (host : Host C) (same : Desk → Desk → Prop) (files : Files) (d : Desk) :
    Cache.empty.Sound host same files d := by
  intro path compiled hfind
  simp [Cache.find?, Cache.empty] at hfind

/-- A store whose cache is sound, beside a desk related to its own. -/
structure Store.Backs (host : Host C) (same : Desk → Desk → Prop) (files : Files) (s : Store C)
    (d : Desk) : Prop where
  desk : same s.desk d
  sound : s.cache.Sound host same files d

section
variable {host : Host C} {same : Desk → Desk → Prop} (hsteady : host.Steady same)
include hsteady

/-! ### What is alike on both desks -/

theorem Host.Steady.add_left {d e : Desk} (h : same d e) (event : Event) : same (d.add event) e :=
  hsteady.lasting.trans (hsteady.symm (hsteady.lasting.add d trivial)) h

theorem Host.Steady.add_right {d e : Desk} (h : same d e) (event : Event) : same d (e.add event) :=
  hsteady.lasting.trans h (hsteady.lasting.add e trivial)

theorem Host.Steady.even : host.Even host.compile same where
  note event _ _ _ h := ⟨rfl, hsteady.add_right (hsteady.add_left h event) event⟩
  compile := hsteady.compile

theorem agree_fetchAnew (files : Files) (path : Path) :
    Run.Agree same (fetchAnew host files path) (fetchAnew host files path) := hsteady.even.fetchAnew files path

theorem same_findPartial (setting : Setting) (invocation : Invocation) (reference : String) :
    (findPartial setting invocation reference).Keeps same :=
  keeps_findPartial hsteady.lasting setting invocation reference (fun _ _ => trivial) (fun _ => trivial)
    fun _ _ => trivial

theorem same_fetchAnew (files : Files) (path : Path) : (fetchAnew host files path).Keeps same :=
  keeps_fetchAnew hsteady.lasting files path (fun _ _ => trivial) (fun _ => trivial) trivial

/-! ### Sound caches -/

variable {files : Files} {c : Cache C} {d e : Desk}

theorem Cache.Sound.along (h : c.Sound host same files d) (hde : same d e) : c.Sound host same files e :=
  fun path compiled hc _ h' => h path compiled hc _ (hsteady.lasting.trans hde h')

/-- An entry put into the cache is what compiling anew came to. -/
theorem Cache.Sound.insert (h : c.Sound host same files d) {path : Path} {compiled : C}
    (hcompiled : ((fetchAnew host files path).start d).1 = .ok compiled) :
    (c.insert path.toString compiled).Sound host same files d := by
  intro path' compiled' hfind e hde
  rw [Cache.find?_insert, Option.or_eq_some_iff] at hfind
  rcases hfind with hold | ⟨-, hnew⟩
  · exact h path' compiled' hold e hde
  · split at hnew
    · next hkey =>
      obtain rfl := Path.toString_injective hkey
      rw [← Option.some.inj hnew, ← (agree_fetchAnew hsteady files path' d e hde).1, hcompiled]
    · simp at hnew

/-- Fetching through a sound cache comes to what compiling anew comes to, and the cache is sound behind it. -/
theorem agree_fetch_anew (path : Path) :
    Run.Agree (Store.Backs host same files) (fetch host files path) (fetchAnew host files path) := by
  intro s d hs
  have hkept := same_fetchAnew hsteady files path d
  have hsound := hs.sound.along hsteady hkept
  cases hc : s.cache.find? path.toString with
  | some compiled =>
    -- Only the other desk moves on here, for nothing is compiled.
    rw [start_fetch_hit hc]
    refine ⟨(hs.sound path compiled hc d (hsteady.lasting.refl d)).symm, ?_, hsound⟩
    exact hsteady.lasting.trans (hsteady.add_left hs.desk _) hkept
  | none =>
    obtain ⟨houtcome, hsame⟩ := agree_fetchAnew hsteady files path _ _ hs.desk
    rw [start_fetch_miss hc]
    rcases hf : (fetchAnew host files path).start s.desk with ⟨fault | compiled, e⟩ <;>
      rw [hf] at houtcome hsame
    · exact ⟨houtcome, hsame, hsound⟩
    · refine ⟨houtcome, hsame, Cache.Sound.insert hsteady hsound ?_⟩
      rw [← (agree_fetchAnew hsteady files path d _ hkept).1]
      exact houtcome.symm

end

end Transclusion.Inclusion

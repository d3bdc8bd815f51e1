import Transclusion.Proofs.Stages
import Transclusion.Template.Compile

/-! Histories of a cache.

A cache is called for partials again and again, by whatever spellings of their paths,
and between two calls files may come, change and go: every `Call` has the files as
they are when it is made. A call is answered from an entry, or the file is read and
compiled (`exchange_cases`), and which of the two is settled by the calls before it.
The first call that comes to a partial leaves an entry for its path, and every later
one is answered from it (`history_found`); as long as none has, every call reads and
compiles anew (`history_unfound`). -/
namespace Transclusion.Inclusion

variable {C : Type}

/-! ### Reading and compiling -/

theorem start_fetchAnew (host : Host C) (files : Files) (path : Path) (d : Desk) :
    (fetchAnew host files path).start d =
      match files.read path with
      | .error fault => (.error (.ofAccess fault), d.add (.read path))
      | .ok bytes =>
        match (host.compile (.bytes bytes) path.toString).start
          ((d.add (.read path)).add (.compile path.toString)) with
        | (.ok compiled, e) =>
          (.ok compiled, e.add (.record (compiledRecord path.toString bytes.length)))
        | (.error fault, e) =>
          (.error (if fault.isInclusion || host.rejects fault then .compilation path.toString fault
            else fault), e) := by
  unfold fetchAnew readBytes compilePartial
  simp only [note, record, Run.start_bind, Run.start_change, Run.start_ofExcept, Run.start_onFault]
  cases files.read path with
  | error fault => rfl
  | ok bytes =>
    have hread : (Except.ok bytes).mapError Fault.ofAccess = .ok bytes := rfl
    simp only [hread]
    rcases (host.compile (.bytes bytes) path.toString).start
      ((d.add (.read path)).add (.compile path.toString)) with ⟨fault | compiled, e⟩
    · by_cases hrejects : (fault.isInclusion || host.rejects fault) = true
      · simp only [if_pos hrejects, Run.start_throw]
      · simp only [if_neg hrejects, Run.start_throw]
    · rfl

/-- Only a file that can be read, and bytes that are accepted, come to a partial. -/
theorem fetchAnew_eq_ok {host : Host C} {files : Files} {path : Path} {d : Desk} {compiled : C} :
    ((fetchAnew host files path).start d).1 = .ok compiled ↔
      ∃ bytes, files.read path = .ok bytes ∧
        ((host.compile (.bytes bytes) path.toString).start
          ((d.add (.read path)).add (.compile path.toString))).1 = .ok compiled := by
  rw [start_fetchAnew]
  cases files.read path with
  | error fault => simp
  | ok bytes =>
    simp only [Except.ok.injEq, exists_eq_left']
    rcases (host.compile (.bytes bytes) path.toString).start
      ((d.add (.read path)).add (.compile path.toString)) with ⟨fault | compiled', e⟩ <;> simp

/-! ### Calls -/

/-- A call for a partial, with the files and the desk as they are when it is made. -/
structure Call where
  spelling : String
  files : Files
  desk : Desk

namespace Call

def path (call : Call) : Path := .ofString call.spelling

/-- The normal form of the spelling. -/
def key (call : Call) : String := call.path.toString

end Call

/-- A call, the cache that it met, and what it came to. -/
structure Exchange (C : Type) where
  call : Call
  before : Cache C
  outcome : Except Fault C
  after : Store C

/-- What a call comes to. -/
def exchange (host : Host C) (cache : Cache C) (call : Call) : Exchange C :=
  let (outcome, after) := (fetch host call.files call.path).start ⟨cache, call.desk⟩
  ⟨call, cache, outcome, after⟩

/-- What calls come to, one after another. -/
def history (host : Host C) (cache : Cache C) : List Call → List (Exchange C)
  | [] => []
  | call :: rest => exchange host cache call :: history host (exchange host cache call).after.cache rest

/-- The cache behind the calls. -/
def cacheAfter (host : Host C) (cache : Cache C) : List Call → Cache C
  | [] => cache
  | call :: rest => cacheAfter host (exchange host cache call).after.cache rest

namespace Exchange

/-- The call counted as one that takes compiling. -/
def missed (e : Exchange C) : Bool := e.before.misses < e.after.cache.misses

/-- The call took compiling and came to a partial. -/
def made (e : Exchange C) : Bool := e.missed && e.outcome.isOk

/-- The partial is the one of an entry: nothing was read, and nothing compiled. -/
structure FromEntry (e : Exchange C) (compiled : C) : Prop where
  outcome : e.outcome = .ok compiled
  after : e.after = ⟨e.before.hit, e.call.desk.add (.record (hitRecord e.call.key))⟩

/-- The file was read and compiled, and only a partial leaves an entry. -/
structure Anew (host : Host C) (e : Exchange C) : Prop where
  run : (fetchAnew host e.call.files e.call.path).start e.call.desk = (e.outcome, e.after.desk)
  cache : e.after.cache =
    match e.outcome with
    | .ok compiled => e.before.miss.insert e.call.key compiled
    | .error _ => e.before.miss

/-- The compiler was given the bytes of the file, and accepted them. -/
def Compiles (host : Host C) (e : Exchange C) : Prop :=
  e.missed = true ∧ ∃ bytes compiled, e.call.files.read e.call.path = .ok bytes ∧
    ((host.compile (.bytes bytes) e.call.key).start
      ((e.call.desk.add (.read e.call.path)).add (.compile e.call.key))).1 = .ok compiled

theorem made_iff_ok {e : Exchange C} :
    e.made = true ↔ e.missed = true ∧ ∃ compiled, e.outcome = .ok compiled := by
  rw [made, Bool.and_eq_true]
  cases e.outcome <;> simp [Except.isOk, Except.toBool]

theorem FromEntry.not_missed {e : Exchange C} {compiled : C} (h : e.FromEntry compiled) :
    e.missed = false := by
  rw [missed, h.after]
  exact decide_eq_false (Nat.lt_irrefl _)

theorem Anew.misses {host : Host C} {e : Exchange C} (h : e.Anew host) :
    e.after.cache.misses = e.before.misses + 1 ∧ e.after.cache.hits = e.before.hits := by
  rw [h.cache]
  cases e.outcome <;> exact ⟨rfl, rfl⟩

theorem Anew.missed {host : Host C} {e : Exchange C} (h : e.Anew host) : e.missed = true := by
  rw [Exchange.missed, h.misses.1]
  exact decide_eq_true (Nat.lt_succ_self _)

end Exchange

section
variable (host : Host C)

/-- A call is answered from an entry if there is one, and otherwise by reading and compiling. -/
theorem exchange_cases (cache : Cache C) (call : Call) :
    (∃ compiled, cache.find? call.key = some compiled ∧ (exchange host cache call).FromEntry compiled) ∨
      (cache.find? call.key = none ∧ (exchange host cache call).Anew host) := by
  unfold exchange
  cases hfind : cache.find? call.key with
  | some compiled =>
    have hstart : (fetch host call.files call.path).start ⟨cache, call.desk⟩ = _ := start_fetch_hit hfind
    rw [hstart]
    exact .inl ⟨compiled, rfl, rfl, rfl⟩
  | none =>
    have hstart : (fetch host call.files call.path).start ⟨cache, call.desk⟩ = _ := start_fetch_miss hfind
    rw [hstart]
    refine .inr ⟨rfl, ?_⟩
    rcases hrun : (fetchAnew host call.files call.path).start call.desk with ⟨fault | compiled, d⟩
    · exact ⟨hrun, rfl⟩
    · exact ⟨hrun, rfl⟩

@[simp] theorem exchange_call (cache : Cache C) (call : Call) : (exchange host cache call).call = call := rfl

@[simp] theorem exchange_before (cache : Cache C) (call : Call) :
    (exchange host cache call).before = cache := rfl

/-- Behind a call its path has the entry that it had, or else the one that the call came to. -/
theorem find?_exchange (cache : Cache C) (call : Call) (key : String) :
    (exchange host cache call).after.cache.find? key =
      (cache.find? key).or
        (if key = call.key then (exchange host cache call).outcome.toOption else none) := by
  rcases exchange_cases host cache call with ⟨compiled, hfind, hentry⟩ | ⟨hfind, hanew⟩
  · rw [hentry.after, hentry.outcome, exchange_before, Cache.find?_hit]
    split
    · next hkey =>
      subst hkey
      rw [hfind]
      rfl
    · exact Option.or_none.symm
  · rw [hanew.cache]
    cases (exchange host cache call).outcome with
    | error fault => simp [Except.toOption]
    | ok compiled => simp [Cache.find?_insert, Except.toOption]

/-- A call that comes to a partial leaves it under its path. -/
theorem find?_of_outcome {cache : Cache C} {call : Call} {compiled : C}
    (h : (exchange host cache call).outcome = .ok compiled) :
    (exchange host cache call).after.cache.find? call.key = some compiled := by
  rw [find?_exchange, if_pos rfl, h]
  rcases exchange_cases host cache call with ⟨compiled', hfind, hentry⟩ | ⟨hfind, -⟩
  · rw [hfind]
    rw [hentry.outcome] at h
    exact congrArg some (Except.ok.inj h)
  · rw [hfind]
    rfl

/-- A call that comes to a fault leaves the entries alone. -/
theorem entries_of_error {cache : Cache C} {call : Call} {fault : Fault}
    (h : (exchange host cache call).outcome = .error fault) :
    (exchange host cache call).after.cache.entries = cache.entries := by
  rcases exchange_cases host cache call with ⟨compiled, -, hentry⟩ | ⟨-, hanew⟩
  · rw [hentry.after]
    rfl
  · rw [hanew.cache, h]
    rfl

/-- A call makes an entry exactly if the compiler accepted what was read. -/
theorem made_iff (cache : Cache C) (call : Call) :
    (exchange host cache call).made = true ↔ (exchange host cache call).Compiles host := by
  rw [Exchange.made_iff_ok, Exchange.Compiles]
  rcases exchange_cases host cache call with ⟨compiled, -, hentry⟩ | ⟨-, hanew⟩
  · simp [hentry.not_missed]
  · have houtcome := congrArg Prod.fst hanew.run
    simp only [exchange_call] at houtcome
    refine and_congr_right fun _ => ⟨?_, ?_⟩
    · rintro ⟨compiled, hcompiled⟩
      obtain ⟨bytes, hread, haccepted⟩ := fetchAnew_eq_ok.1 (houtcome.trans hcompiled)
      exact ⟨bytes, compiled, hread, haccepted⟩
    · rintro ⟨bytes, compiled, hread, haccepted⟩
      exact ⟨compiled, houtcome.symm.trans (fetchAnew_eq_ok.2 ⟨bytes, hread, haccepted⟩)⟩

/-! ### Histories -/

/-- What has an entry is answered from it, whatever the files are. -/
theorem history_found {cache : Cache C} {key : String} {compiled : C} (h : cache.find? key = some compiled)
    (calls : List Call) : ∀ e ∈ history host cache calls, e.call.key = key → e.FromEntry compiled := by
  induction calls generalizing cache with
  | nil => simp [history]
  | cons call rest ih =>
    intro e he hkey
    rcases List.mem_cons.1 he with rfl | hlater
    · rw [exchange_call] at hkey
      subst hkey
      rcases exchange_cases host cache call with ⟨compiled', hfind, hentry⟩ | ⟨hfind, -⟩
      · rw [h] at hfind
        exact Option.some.inj hfind ▸ hentry
      · rw [h] at hfind
        simp at hfind
    · refine ih ?_ e hlater hkey
      rw [find?_exchange, h]
      rfl

/-- Before any call for a path has come to a partial, a call for it reads and compiles. -/
theorem history_unfound {cache : Cache C} {calls : List Call} {earlier later : List (Exchange C)}
    {e : Exchange C} (h : cache.find? e.call.key = none)
    (hsplit : history host cache calls = earlier ++ e :: later)
    (hfailed : ∀ e' ∈ earlier, e'.call.key = e.call.key → ∃ fault, e'.outcome = .error fault) :
    e.Anew host := by
  induction calls generalizing cache earlier with
  | nil => simp [history] at hsplit
  | cons call rest ih =>
    cases earlier with
    | nil =>
      obtain ⟨rfl, -⟩ := List.cons.inj hsplit
      rcases exchange_cases host cache call with ⟨compiled, hfind, -⟩ | ⟨-, hanew⟩
      · rw [exchange_call, hfind] at h
        simp at h
      · exact hanew
    | cons first earlier =>
      obtain ⟨rfl, hrest⟩ := List.cons.inj hsplit
      refine ih ?_ hrest fun e' he' => hfailed e' (List.mem_cons_of_mem _ he')
      rw [find?_exchange, h, Option.none_or]
      split
      · next hkey =>
        obtain ⟨fault, hfault⟩ := hfailed _ (List.mem_cons_self ..) hkey.symm
        rw [hfault]
        rfl
      · rfl

/-- Behind a call that came to a partial every later one for its path is answered with it. -/
theorem pairwise_history (cache : Cache C) (calls : List Call) :
    (history host cache calls).Pairwise fun e e' => e.call.key = e'.call.key →
      ∀ compiled, e.outcome = .ok compiled → e'.FromEntry compiled := by
  induction calls generalizing cache with
  | nil => exact .nil
  | cons call rest ih =>
    refine List.pairwise_cons.2 ⟨fun e he hkey compiled hcompiled => ?_, ih _⟩
    exact history_found host (find?_of_outcome host hcompiled) rest e he hkey.symm

theorem exists_of_mem_history {cache : Cache C} {calls : List Call} {e : Exchange C}
    (h : e ∈ history host cache calls) : ∃ met call, exchange host met call = e := by
  induction calls generalizing cache with
  | nil => simp [history] at h
  | cons call rest ih =>
    rcases List.mem_cons.1 h with rfl | hlater
    · exact ⟨cache, call, rfl⟩
    · exact ih hlater

/-! ### What the calls add up to -/

theorem hits_add_misses (cache : Cache C) (calls : List Call) :
    (cacheAfter host cache calls).hits + (cacheAfter host cache calls).misses =
      cache.hits + cache.misses + calls.length := by
  induction calls generalizing cache with
  | nil => rfl
  | cons call rest ih =>
    rw [cacheAfter, ih, List.length_cons]
    rcases exchange_cases host cache call with ⟨compiled, -, hentry⟩ | ⟨-, hanew⟩
    · rw [hentry.after, exchange_before]
      simp only [Cache.hit]
      omega
    · rw [hanew.misses.1, hanew.misses.2, exchange_before]
      omega

theorem size_cacheAfter (cache : Cache C) (calls : List Call) :
    (cacheAfter host cache calls).size = cache.size + (history host cache calls).countP Exchange.made := by
  induction calls generalizing cache with
  | nil => rfl
  | cons call rest ih =>
    rw [cacheAfter, ih, history, List.countP_cons, Exchange.made]
    rcases exchange_cases host cache call with ⟨compiled, -, hentry⟩ | ⟨-, hanew⟩
    · rw [hentry.not_missed, hentry.after]
      rfl
    · rw [hanew.cache, hanew.missed]
      cases (exchange host cache call).outcome with
      | error fault => rfl
      | ok compiled =>
        simp only [exchange_before, Cache.size_insert, Except.isOk, Except.toBool, Bool.and_self, if_true]
        show cache.size + 1 + _ = _
        omega

/-- An entry for a path that had none leaves the paths of the entries different. -/
theorem Cache.nodup_insert {c : Cache C} (h : (c.entries.map Prod.fst).Nodup) {key : String}
    (hfind : c.find? key = none) (value : C) : ((c.insert key value).entries.map Prod.fst).Nodup := by
  have hnew : key ∉ c.entries.map Prod.fst := by
    intro hmem
    obtain ⟨entry, hentry, rfl⟩ := List.mem_map.1 hmem
    simpa using List.lookup_eq_none_iff.1 hfind entry hentry
  rw [insert, List.map_append, List.nodup_append]
  refine ⟨h, List.pairwise_singleton _ _, fun other hother last hlast heq => hnew ?_⟩
  rw [List.map_singleton, List.mem_singleton] at hlast
  rwa [heq, hlast] at hother

/-- No two entries are of one path. -/
theorem nodup_cacheAfter {cache : Cache C} (h : (cache.entries.map Prod.fst).Nodup) (calls : List Call) :
    ((cacheAfter host cache calls).entries.map Prod.fst).Nodup := by
  induction calls generalizing cache with
  | nil => exact h
  | cons call rest ih =>
    refine ih ?_
    rcases exchange_cases host cache call with ⟨compiled, -, hentry⟩ | ⟨hfind, hanew⟩
    · rw [hentry.after]
      exact h
    · rw [hanew.cache]
      cases (exchange host cache call).outcome with
      | error fault => exact h
      | ok compiled => exact Cache.nodup_insert h hfind compiled

/-- Calls are made on an empty cache, one after another, and files come, change and go between them. Every
call counts as one that takes compiling or as one that does not, and the entries are of different paths and as
many as the calls that took compiling and came to a partial, which are those whose bytes the compiler
accepted. It accepts them for a path once at most; from that call on every call for the path is answered with
that partial, out of its entry. A call that comes to a fault leaves the entries alone, and a call for a path
for which every call has come to a fault reads and compiles anew. -/
theorem history_settled (calls : List Call) :
    let exchanges := history host .empty calls
    let final := cacheAfter host .empty calls
    (final.hits + final.misses = calls.length ∧ (final.entries.map Prod.fst).Nodup ∧
      final.size = exchanges.countP Exchange.made) ∧
    (∀ e ∈ exchanges, e.made = true ↔ e.Compiles host) ∧
    (exchanges.Pairwise fun e e' => e.call.key = e'.call.key →
      (e.Compiles host → ¬e'.Compiles host) ∧ ∀ compiled, e.outcome = .ok compiled → e'.FromEntry compiled) ∧
    ∀ earlier e later, exchanges = earlier ++ e :: later →
      (∀ fault, e.outcome = .error fault → e.after.cache.entries = e.before.entries) ∧
      ((∀ e' ∈ earlier, e'.call.key = e.call.key → ∃ fault, e'.outcome = .error fault) → e.Anew host) := by
  intro exchanges final
  have hmade : ∀ e ∈ exchanges, e.made = true ↔ e.Compiles host := by
    intro e he
    obtain ⟨cache, call, rfl⟩ := exists_of_mem_history host he
    exact made_iff host cache call
  have hempty : ((Cache.empty : Cache C).entries.map Prod.fst).Nodup := .nil
  refine ⟨⟨?_, nodup_cacheAfter host hempty calls, ?_⟩, hmade, ?_, ?_⟩
  · exact (hits_add_misses host .empty calls).trans (Nat.zero_add _)
  · exact (size_cacheAfter host .empty calls).trans (Nat.zero_add _)
  · refine (pairwise_history host .empty calls).imp_of_mem fun {e e'} he _ hlater hkey => ?_
    refine ⟨fun hcompiles hcompiles' => ?_, hlater hkey⟩
    obtain ⟨-, compiled, hcompiled⟩ := Exchange.made_iff_ok.1 ((hmade e he).2 hcompiles)
    exact absurd hcompiles'.1 (Bool.eq_false_iff.1 (hlater hkey compiled hcompiled).not_missed)
  · intro earlier e later hsplit
    have hmem : e ∈ exchanges := hsplit ▸ List.mem_append_right _ (List.mem_cons_self ..)
    obtain ⟨cache, call, rfl⟩ := exists_of_mem_history host hmem
    exact ⟨fun fault => entries_of_error host, history_unfound host rfl hsplit⟩

-- A file that is not there yet, then is, and is gone when its path is spelled in another way.
example :
    let there : Files := .ofNodes [(["nav.html".toList], .file [72, 105])]
    let calls : List Call :=
      [⟨"/nav.html", .ofNodes [], .empty⟩, ⟨"/nav.html", there, .empty⟩,
        ⟨"/./nav.html", .ofNodes [], .empty⟩]
    (history (Template.host .standard ⟨.empty, none⟩ "utf-8") .empty calls).map
      (fun e => (e.missed, e.outcome.isOk)) = [(true, false), (true, true), (false, true)] := by
  decide +kernel

end

end Transclusion.Inclusion

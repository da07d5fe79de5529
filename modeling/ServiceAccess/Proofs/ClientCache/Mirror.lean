import ServiceAccess.Proofs.ClientCache.Share

/-! # A cache with one key

A cache that has to do with one key only mirrors one that has to do with others too: it has the same under
the key, with the numbers that creations, releases and calls get when only those of the share count.

* **`Share.keeps`**, **`Share.ofAction`**: the actions that concern the key, with their new numbers.
* **`Share.Agree`**: effects of the two caches that are the same for the key.
* **`Share.Mirrors`**: a cache has what another one has for a key. Its laws say which parts of a change, made
  to one of the caches or to both of them, keep this. -/

namespace ServiceAccess.ClientCache

open Run

variable {ρ κ ε : Type}

/-! ## Renumbering -/

namespace Share

variable (s : Share κ)

/-- The number of a creation of the share. The first creation has the number one. -/
def creationNo (g : Nat) : Nat := rank s.creation g + 1

/-- The number of a release of the share. -/
def releaseNo (r : Nat) : Nat := rank s.release r

/-- The number of a call of the share. -/
def callNo (n : Nat) : Nat := rank s.call n

/-- A stored client with its new number. -/
def ofEntry (e : Entry κ) : Entry κ := { e with generation := s.creationNo e.generation }

/-- A flight with its new number. -/
def ofFlight (f : Flight) : Flight := { f with generation := s.creationNo f.generation }

/-- A creation whose callers have their new numbers. -/
def ofCreation (cr : Creation ρ κ ε) : Creation ρ κ ε := { cr with callers := cr.callers.map s.callNo }

/-- An owner with its new number. -/
def ofOwner : Owner → Owner
  | .creation g => .creation (s.creationNo g)
  | .sweep n => .sweep (s.callNo n)

/-- A continuation that concerns the key, with its new number. Sweeps are concluded on their own. -/
def ofJob? : Job → Option Job
  | .answer g => if s.creation g = true then some (.answer (s.creationNo g)) else none
  | .release r => if s.release r = true then some (.release (s.releaseNo r)) else none
  | .sweep _ | .conclude _ => none

/-- An action concerns the key. -/
def keeps : Action ρ κ ε → Bool
  | .acquire key _ _ => key = s.key
  | .evictStale _ => true
  | .created g _ => s.creation g
  | .released r _ => s.release r
  | .answer g => s.creation g
  | _ => false

/-- An action that concerns the key, with its new number. -/
def ofAction : Action ρ κ ε → Action ρ κ ε
  | .created g result => .created (s.creationNo g) result
  | .released r result => .released (s.releaseNo r) result
  | .answer g => .answer (s.creationNo g)
  | a => a

variable {s}

theorem creationNo_inj {g h : Nat} (hg : s.creation g = true) (hh : s.creation h = true) :
    s.creationNo g = s.creationNo h ↔ g = h :=
  Nat.add_right_cancel_iff.trans (rank_inj hg hh)

theorem callNo_inj {m n : Nat} (hm : s.call m = true) (hn : s.call n = true) :
    s.callNo m = s.callNo n ↔ m = n := rank_inj hm hn

/-- A call for a client of the key concerns the key. -/
theorem call_of_acquire {n : Nat} (h : s.acquire n = true) : s.call n = true := by
  rw [call, h, Bool.true_or]

end Share

/-- A continuation that answers a call which has swept. -/
def Job.concludes : Job → Bool
  | .conclude _ => true
  | _ => false

variable {s : Share κ} {c d : ClientCache ρ κ ε} {es es' : List (Effect ρ κ ε)}

/-! ## Effects -/

/-- What an effect asks for: a create call with its request, or the release of a client. -/
def Effect.ask? : Effect ρ κ ε → Option (ρ ⊕ κ)
  | .create _ request => some (.inl request)
  | .dispose _ x => some (.inr x)
  | _ => none

/-- What an effect asks for on behalf of the key. -/
def Share.ask? (s : Share κ) : Effect ρ κ ε → Option (ρ ⊕ κ)
  | .create g request => if s.creation g = true then some (.inl request) else none
  | .dispose _ x => if s.client x = true then some (.inr x) else none
  | _ => none

/-- **Effects that are the same for the key.** -/
structure Share.Agree (s : Share κ) (es es' : List (Effect ρ κ ε)) : Prop where
  /-- The same is asked for. -/
  asks : es.filterMap s.ask? = es'.filterMap Effect.ask?
  /-- Calls for a client of the key have the same outcomes. -/
  outcomes : ∀ n, s.acquire n = true → outcomesOf n es = outcomesOf (s.callNo n) es'

namespace Share

theorem Agree.nil : s.Agree ([] : List (Effect ρ κ ε)) [] := ⟨rfl, fun _ _ => rfl⟩

theorem Agree.append {fs fs' : List (Effect ρ κ ε)} (h : s.Agree es es') (h' : s.Agree fs fs') :
    s.Agree (es ++ fs) (es' ++ fs') := by
  refine ⟨?_, fun n here => ?_⟩
  · rw [List.filterMap_append, List.filterMap_append, h.asks, h'.asks]
  · rw [outcomesOf_append, outcomesOf_append, h.outcomes n here, h'.outcomes n here]

/-- Reports do not matter. -/
theorem Agree.note (h : s.Agree es es') (n : Note) : s.Agree (.note n :: es) (.note n :: es') :=
  ⟨h.asks, h.outcomes⟩

theorem Agree.note_left (h : s.Agree es es') (n : Note) : s.Agree (.note n :: es) es' :=
  ⟨h.asks, h.outcomes⟩

/-- A call that concerns the key is answered under its new number. -/
theorem agree_settled {n : Nat} (call : s.call n = true) (o : Except ε (Answer κ)) :
    s.Agree [(.settled n o : Effect ρ κ ε)] [.settled (s.callNo n) o] := by
  refine ⟨rfl, fun m here => ?_⟩
  simp only [outcomesOf, List.filterMap_cons, Effect.outcomeOf?, callNo_inj call (call_of_acquire here)]
  rfl

/-- The callers of a creation for the key are answered under their new numbers. -/
theorem agree_callers {callers : List Nat} (ours : ∀ n ∈ callers, s.acquire n = true)
    (o : Except ε (Answer κ)) :
    s.Agree (callers.map fun n => (.settled n o : Effect ρ κ ε))
      ((callers.map s.callNo).map fun n => .settled n o) := by
  refine ⟨?_, fun n here => ?_⟩
  · rw [List.filterMap_eq_nil_iff.2 (by simp [ask?]), List.filterMap_eq_nil_iff.2 (by simp [Effect.ask?])]
  · -- a call is among the callers under its new number exactly when it is under its own
    have same : (callers.map s.callNo).count (s.callNo n) = callers.count n := by
      rw [List.count_eq_countP, List.countP_map, List.count_eq_countP]
      refine List.countP_congr fun m caller => ?_
      simp [callNo_inj (call_of_acquire (ours m caller)) (call_of_acquire here)]
    rw [outcomesOf_callers, outcomesOf_callers, same]

/-- A call that wants no client for the key is answered. -/
theorem agree_settled_other {n : Nat} (other : s.acquire n = false) (o : Except ε (Answer κ)) :
    s.Agree [(.settled n o : Effect ρ κ ε)] [] := by
  refine ⟨rfl, fun m here => ?_⟩
  have apart : n ≠ m := by
    rintro rfl
    simp [other] at here
  simp [outcomesOf, Effect.outcomeOf?, apart]

/-- The release of a client of another key. -/
theorem agree_releaseEffects_other {x : κ} (other : s.client x = false) :
    s.Agree (c.releaseEffects x : List (Effect ρ κ ε)) [] := by
  rw [releaseEffects]
  split
  · exact ⟨by simp [ask?, other], fun n _ => rfl⟩
  · exact .nil

end Share

/-! ## Mirrored caches -/

/-- **A cache has what another one has for the key of a share**, and nothing else. -/
structure Share.Mirrors (s : Share κ) (c d : ClientCache ρ κ ε) : Prop where
  /-- Clients have to be released in both or in none. -/
  disposes : d.disposes = c.disposes
  /-- The stored client of the key. -/
  entry : d.entries.get? s.key = (c.entries.get? s.key).map s.ofEntry
  /-- There are no clients of other keys. -/
  alone : ∀ key, key ≠ s.key → d.entries.get? key = none
  /-- The flight of the key. -/
  flight : d.flights.get? s.key = (c.flights.get? s.key).map s.ofFlight
  /-- The clients of the key that were never stored. -/
  detached : d.detached = c.detached.filter s.client
  /-- The number of the last creation. -/
  generation : d.generation = rank s.creation (c.generation + 1)
  /-- The number of the next call. -/
  calls : d.calls = s.callNo c.calls
  /-- The number of the next release. -/
  releases : d.releases = s.releaseNo c.releases
  /-- The creations for the key. -/
  creations : Table.Renumbered s.creation s.creationNo s.ofCreation c.creations d.creations
  /-- The releases for the key. -/
  owners : Table.Renumbered s.release s.releaseNo s.ofOwner c.owners d.owners
  /-- The continuations that concern the key. -/
  jobs : d.jobs.filter (fun job => !job.concludes) = c.jobs.filterMap s.ofJob?
  /-- No call waits to sweep. -/
  unwaiting : d.waiting = ∅
  /-- Calls that want a client do not sweep. -/
  unswept : ∀ n, s.acquire n = true → d.sweeps.get? (s.callNo n) = none

namespace Share

/-- Two empty caches mirror each other. -/
theorem mirrors_empty (s : Share κ) (disposes : Bool) (first : s.creation 0 = false) :
    s.Mirrors (.empty disposes : ClientCache ρ κ ε) (.empty disposes) where
  disposes := rfl
  entry := rfl
  alone := fun _ _ => rfl
  flight := rfl
  detached := rfl
  generation := by
    rw [empty, rank_succ, first]
    rfl
  calls := rfl
  releases := rfl
  creations := ⟨fun hm hn same => (creationNo_inj hm hn).1 same, fun _ _ => rfl⟩
  owners := ⟨fun hm hn same => (rank_inj hm hn).1 same, fun _ _ => rfl⟩
  jobs := rfl
  unwaiting := rfl
  unswept := fun _ _ => rfl

/-- That a sweep may be about to be answered does not concern the key. -/
theorem filterMap_concluded (s : Share κ) (b : Bool) (jobs : List Job) (n : Nat) :
    (if b = true then jobs ++ [Job.conclude n] else jobs).filterMap s.ofJob? = jobs.filterMap s.ofJob? := by
  split
  · simp [ofJob?]
  · rfl

namespace Mirrors

variable (h : s.Mirrors c d)
include h

/-! ### What concerns the key -/

/-- A creation for the key is under way in both caches. -/
theorem under {g : Nat} {cr : Creation ρ κ ε} (here : s.creation g = true)
    (under : c.creations.get? g = some cr) : d.creations.get? (s.creationNo g) = some (s.ofCreation cr) := by
  rw [h.creations.get? g here, under, Option.map_some]

/-- A client of the key is stored in both caches. -/
theorem stored {key : String} {e : Entry κ} (here : key = s.key) (stored : c.entries.get? key = some e) :
    d.entries.get? key = some (s.ofEntry e) := by
  subst here
  rw [h.entry, stored, Option.map_some]

/-- No client of the key is stored in either cache. -/
theorem unstored {key : String} (here : key = s.key) (absent : c.entries.get? key = none) :
    d.entries.get? key = none := by
  subst here
  rw [h.entry, absent, Option.map_none]

/-- The flight of the key, if there is one, builds with other credentials in both caches. -/
theorem apart {fp : String} (apart : ∀ f, c.flights.get? s.key = some f → f.fingerprint ≠ fp) :
    ∀ f, d.flights.get? s.key = some f → f.fingerprint ≠ fp := by
  intro f flight
  rw [h.flight, Option.map_eq_some_iff] at flight
  obtain ⟨f, flight, rfl⟩ := flight
  exact apart f flight

/-- The next creation, if it is for the key, takes the next number in both caches. -/
theorem next_creation : d.generation + 1 = s.creationNo (c.generation + 1) :=
  congrArg (· + 1) h.generation

theorem generation_succ (here : s.creation (c.generation + 1) = true) :
    d.generation + 1 = rank s.creation (c.generation + 1 + 1) := by
  rw [rank_succ, if_pos here, h.generation]

theorem calls_succ (here : s.call c.calls = true) : d.calls + 1 = s.callNo (c.calls + 1) := by
  rw [callNo, rank_succ, if_pos here, h.calls, callNo]

theorem releases_succ (here : s.release c.releases = true) :
    d.releases + 1 = s.releaseNo (c.releases + 1) := by
  rw [releaseNo, rank_succ, if_pos here, h.releases, releaseNo]

/-- A client of the key is stored in both caches: nothing else changes in what is stored. -/
theorem insert_entry {key : String} (here : key = s.key) (e : Entry κ) :
    (d.entries.insert key (s.ofEntry e)).get? s.key
        = ((c.entries.insert key e).get? s.key).map s.ofEntry ∧
      ∀ k, k ≠ s.key → (d.entries.insert key (s.ofEntry e)).get? k = none := by
  subst here
  refine ⟨?_, fun k other => ?_⟩
  · rw [Table.get?_insert_self, Table.get?_insert_self, Option.map_some]
  · rw [Table.get?_insert, if_neg other, h.alone k other]

/-- A creation for the key becomes its flight in both caches. -/
theorem insert_flight (fp : String) :
    (d.flights.insert s.key ⟨fp, d.generation + 1⟩).get? s.key
      = ((c.flights.insert s.key ⟨fp, c.generation + 1⟩).get? s.key).map s.ofFlight := by
  rw [Table.get?_insert_self, Table.get?_insert_self, h.next_creation]
  rfl

/-- A creation for the key starts in both caches. -/
theorem insert_creation (here : s.creation (c.generation + 1) = true) (fp : String) (request : ρ)
    (stage : Stage κ ε) :
    Table.Renumbered s.creation s.creationNo s.ofCreation
      (c.creations.insert (c.generation + 1) ⟨s.key, fp, request, stage, [c.calls]⟩)
      (d.creations.insert (d.generation + 1) ⟨s.key, fp, request, stage, [d.calls]⟩) := by
  rw [h.next_creation, h.calls]
  exact h.creations.insert here ⟨s.key, fp, request, stage, [c.calls]⟩

/-- A creation for the key takes a release in both caches. -/
theorem insert_owner (here : s.release c.releases = true) (o : Owner) :
    Table.Renumbered s.release s.releaseNo s.ofOwner (c.owners.insert c.releases o)
      (d.owners.insert d.releases (s.ofOwner o)) := by
  rw [h.releases]
  exact h.owners.insert here o

/-- The continuations once a release for the key has started. -/
theorem releaseJobs (here : s.release c.releases = true) :
    d.releaseJobs.filter (fun job => !job.concludes) = c.releaseJobs.filterMap s.ofJob? := by
  rw [ClientCache.releaseJobs, ClientCache.releaseJobs, h.disposes, h.releases]
  split
  · exact h.jobs
  · rw [List.filter_append, List.filterMap_append, h.jobs]
    simp [Job.concludes, ofJob?, here]

/-- A client of the key is released in both caches. -/
theorem agree_releaseEffects {x : κ} (ours : s.client x = true) :
    s.Agree (c.releaseEffects x : List (Effect ρ κ ε)) (d.releaseEffects x) := by
  rw [releaseEffects, releaseEffects, h.disposes]
  split
  · exact ⟨by simp [ask?, Effect.ask?, ours], fun n _ => rfl⟩
  · exact .nil

/-- The callers of a finished creation for the key will be answered in both caches. -/
theorem answerJobs {g : Nat} (here : s.creation g = true) :
    (d.jobs ++ [Job.answer (s.creationNo g)]).filter (fun job => !job.concludes)
      = (c.jobs ++ [Job.answer g]).filterMap s.ofJob? := by
  rw [List.filter_append, List.filterMap_append, h.jobs]
  simp [Job.concludes, ofJob?, here]

/-! ### What concerns other keys -/

theorem releases_other (other : s.release c.releases = false) : d.releases = s.releaseNo (c.releases + 1) := by
  rw [releaseNo, rank_succ, other, h.releases]
  rfl

/-- The continuations once a release for another key has started. -/
theorem releaseJobs_other (other : s.release c.releases = false) :
    d.jobs.filter (fun job => !job.concludes) = c.releaseJobs.filterMap s.ofJob? := by
  rw [ClientCache.releaseJobs]
  split
  · exact h.jobs
  · rw [List.filterMap_append, h.jobs]
    simp [ofJob?, other]

/-- The callers of a finished creation for another key will be answered in one of the caches. -/
theorem answerJobs_other {g : Nat} (other : s.creation g = false) :
    d.jobs.filter (fun job => !job.concludes) = (c.jobs ++ [Job.answer g]).filterMap s.ofJob? := by
  rw [List.filterMap_append, h.jobs]
  simp [ofJob?, other]

end Mirrors

end Share

/-! ## Sweeps -/

/-- Numbers that are given to clients in order, and tagged when the clients are: the ranks of the tagged ones
follow one another, and are as many as the tagged clients. -/
theorem rank_given {tags : Nat → Bool} {q : κ → Bool} {a : Nat} {clients : List κ}
    (right : ∀ i x, clients[i]? = some x → tags (a + i) = q x) :
    rank tags (a + clients.length) = rank tags a + (clients.filter q).length ∧
      (List.range' a clients.length).filterMap
          (fun n => if tags n = true then some (rank tags n) else none)
        = List.range' (rank tags a) (clients.filter q).length := by
  induction clients generalizing a with
  | nil => exact ⟨rfl, rfl⟩
  | cons x rest ih =>
    have first : tags a = q x := right 0 x rfl
    obtain ⟨length, ranks⟩ := @ih (a + 1) fun i y here => by
      rw [Nat.add_right_comm]
      exact right (i + 1) y here
    rw [List.length_cons, ← Nat.add_assoc, Nat.add_right_comm, length, List.range'_succ,
      List.filterMap_cons, ranks, rank_succ, first, List.filter_cons]
    cases q x with
    | true =>
      refine ⟨?_, by simp [List.range'_succ]⟩
      simp only [if_true, List.length_cons]
      omega
    | false => exact ⟨rfl, rfl⟩

/-- What is made of releases without regard to their numbers. -/
theorem filterMap_disposals {α : Type} {f : Effect ρ κ ε → Option α} {g : κ → Option α}
    (same : ∀ n x, f (.dispose n x) = g x) (clients : List κ) (n : Nat) :
    ((clients.zipIdx n).map fun e => (.dispose e.2 e.1 : Effect ρ κ ε)).filterMap f
      = clients.filterMap g := by
  have unnumbered : (f ∘ fun e : κ × Nat => .dispose e.2 e.1) = g ∘ Prod.fst :=
    funext fun e => same e.2 e.1
  rw [List.filterMap_map, unnumbered, ← List.filterMap_map, List.zipIdx_map_fst]

/-- What the start of a sweep adds to the continuations, but for the end of the sweep. -/
theorem filter_sweepJobs (clients : List κ) (n : Nat) :
    (if clients.isEmpty then d.jobs ++ [Job.conclude n] else d.sweepJobs clients.length).filter
        (fun job => !job.concludes)
      = d.jobs.filter (fun job => !job.concludes)
        ++ if d.disposes then [] else (List.range' d.releases clients.length).map .release := by
  cases clients with
  | nil => simp [Job.concludes]
  | cons x rest =>
    rw [List.isEmpty_cons, if_neg (by simp), ClientCache.sweepJobs]
    split
    · simp
    · rw [List.filter_append]
      refine congrArg _ (List.filter_eq_self.2 fun job here => ?_)
      obtain ⟨r, -, rfl⟩ := List.mem_map.1 here
      rfl

/-- What the start of a sweep adds to the continuations that concern the key. -/
theorem filterMap_sweepJobs (s : Share κ) (clients : List κ) (n : Nat) :
    (if clients.isEmpty then c.jobs ++ [Job.conclude n] else c.sweepJobs clients.length).filterMap s.ofJob?
      = c.jobs.filterMap s.ofJob?
        ++ if c.disposes then []
          else (List.range' c.releases clients.length).filterMap fun r => s.ofJob? (.release r) := by
  cases clients with
  | nil => simp [Share.ofJob?]
  | cons x rest =>
    rw [List.isEmpty_cons, if_neg (by simp), ClientCache.sweepJobs]
    split
    · simp
    · rw [List.filterMap_append, List.filterMap_map]
      rfl

namespace Share.Mirrors

variable (h : s.Mirrors c d)
include h

/-- The clients of the key are swept out in both caches. -/
theorem stale (fits : s.Fits c) (fp : String) : d.stale fp = (c.stale fp).filter s.client := by
  have ours : ∀ k e, (c.entries.filter fun _ e => e.fingerprint ≠ fp).get? k = some e →
      ((s.client ∘ Entry.client) e = true ↔ k = s.key) := by
    intro k e stored
    rw [Table.get?_filter, Option.filter_eq_some_iff] at stored
    exact fits.stored k e stored.1
  have all : ∀ k e, (d.entries.filter fun _ e => e.fingerprint ≠ fp).get? k = some e →
      ((fun _ => true) e = true ↔ k = s.key) := by
    intro k e stored
    rw [Table.get?_filter, Option.filter_eq_some_iff] at stored
    refine ⟨fun _ => ?_, fun _ => rfl⟩
    by_contra other
    rw [h.alone k other] at stored
    simp at stored
  have theirs := Table.filter_values all
  rw [List.filter_true] at theirs
  rw [ClientCache.stale, ClientCache.stale, List.filter_append, List.filter_map, Table.filter_values ours,
    theirs, h.detached, Table.get?_filter, Table.get?_filter, h.entry]
  cases c.entries.get? s.key with
  | none => rfl
  | some e => by_cases same : e.fingerprint = fp <;> simp [ofEntry, same, Option.filter]

/-- The releases of a sweep in both caches: in the mirroring one, those of the clients of the key. -/
theorem sweepOwners {clients : List κ}
    (right : ∀ i x, clients[i]? = some x → s.release (c.releases + i) = s.client x) :
    Table.Renumbered s.release s.releaseNo s.ofOwner (c.sweepOwners c.calls clients.length)
      (d.sweepOwners d.calls (clients.filter s.client).length) := by
  refine ⟨h.owners.inj, fun r here => ?_⟩
  have lower : s.releaseNo r < s.releaseNo c.releases ↔ r < c.releases := rank_lt_rank_iff here
  have upper : s.releaseNo r < s.releaseNo c.releases + (clients.filter s.client).length
      ↔ r < c.releases + clients.length := by
    rw [releaseNo, releaseNo, ← (rank_given right).1]
    exact rank_lt_rank_iff here
  rw [get?_sweepOwners, get?_sweepOwners, h.releases, h.calls]
  by_cases new : c.releases ≤ r ∧ r < c.releases + clients.length
  · rw [if_pos new, if_pos ⟨by omega, upper.2 new.2⟩]
    rfl
  · rw [if_neg new, if_neg (by omega), h.owners.get? r here]

/-- The continuations after the start of a sweep in both caches. -/
theorem sweepJobs {clients : List κ} (n m : Nat)
    (right : ∀ i x, clients[i]? = some x → s.release (c.releases + i) = s.client x) :
    (if (clients.filter s.client).isEmpty then d.jobs ++ [Job.conclude m]
        else d.sweepJobs (clients.filter s.client).length).filter (fun job => !job.concludes)
      = (if clients.isEmpty then c.jobs ++ [Job.conclude n]
        else c.sweepJobs clients.length).filterMap s.ofJob? := by
  rw [filter_sweepJobs, filterMap_sweepJobs, h.jobs, h.disposes, h.releases, releaseNo,
    ← (rank_given right).2, List.map_filterMap]
  congr 2
  refine List.filterMap_congr fun r _ => ?_
  cases here : s.release r <;> simp [ofJob?, here, releaseNo]

/-- The releases of a sweep that are asked for. -/
theorem agree_sweepEffects (clients : List κ) :
    s.Agree (c.sweepEffects clients : List (Effect ρ κ ε))
      (d.sweepEffects (clients.filter s.client)) := by
  refine ⟨?_, fun n _ => ?_⟩
  · rw [sweepEffects, sweepEffects, h.disposes]
    split
    · rw [filterMap_disposals (g := fun x => if s.client x = true then some (.inr x) else none)
          fun _ _ => rfl, filterMap_disposals (g := fun x => some (.inr x)) fun _ _ => rfl,
        List.filterMap_filter]
    · rfl
  · rw [outcomesOf_eq_nil_iff.2 fun _ => settled_not_mem_sweepEffects _ _ _,
      outcomesOf_eq_nil_iff.2 fun _ => settled_not_mem_sweepEffects _ _ _]

end Share.Mirrors

end ServiceAccess.ClientCache

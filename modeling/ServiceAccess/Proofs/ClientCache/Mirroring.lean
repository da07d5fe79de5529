import ServiceAccess.Proofs.ClientCache.Mirror

/-! # What happens in a cache with one key

A cache with one key goes on mirroring another one, move by move.

* **`Move.follows`**: a move that concerns the key is made by both caches.
* **`Move.spares`**: a move that does not is made by the other cache only.
* **`Move.spares_conclude`**: the mirroring cache may answer a call which has swept before the other one
  does.

In each case both ask for the same on behalf of the key. -/

namespace ServiceAccess.ClientCache

open Run

variable {ρ κ ε : Type} [DecidableEq κ]
variable {s : Share κ} {c c' d d' : ClientCache ρ κ ε} {a : Action ρ κ ε}
variable {es es' : List (Effect ρ κ ε)}

/-! ## What concerns the key -/

/-- The mirroring cache makes a move for the same action, and mirrors the result. -/
def Share.Follows (s : Share κ) (d : ClientCache ρ κ ε) (a : Action ρ κ ε) (c' : ClientCache ρ κ ε)
    (es : List (Effect ρ κ ε)) : Prop :=
  ∃ d' es', Move d (s.ofAction a) d' es' ∧ s.Mirrors c' d' ∧ s.Agree es es'

/-- A call that wants a client for the key. -/
theorem Move.follows_acquire {fp : String} {request : ρ} (m : Move c (.acquire s.key fp request) c' es)
    (sound : c.Sound) (fits : s.Fits c) (covers : s.Covers c (.acquire s.key fp request) c')
    (h : s.Mirrors c d) : s.Follows d (.acquire s.key fp request) c' es := by
  have call (made : c'.calls = c.calls + 1) : s.call c.calls = true :=
    Share.call_of_acquire ((covers.acquire_eq made).trans (decide_eq_true rfl))
  have creation (begun : c'.generation = c.generation + 1) : s.creation (c.generation + 1) = true :=
    (covers.creation_eq begun).trans (decide_eq_true rfl)
  cases m with
  | hit stored same =>
    refine ⟨_, _, .hit (h.stored rfl stored) same, { h with calls := h.calls_succ (call rfl) }, ?_⟩
    rw [h.calls]
    exact (Share.agree_settled (call rfl) _).note _
  | @joined _ _ _ g cr unusable flight under =>
    -- the flight is one of the key, and bears its own number in the mirror
    have here : s.creation g = true := (fits.flight_iff sound flight).2 rfl
    have flight' : d.flights.get? s.key = some ⟨fp, s.creationNo g⟩ := by
      rw [h.flight, flight]
      rfl
    have unusable' : ∀ e, d.entries.get? s.key = some e → e.fingerprint ≠ fp := by
      simpa [h.entry, Share.ofEntry] using unusable
    refine ⟨_, _, .joined unusable' flight' (h.under here under), { h with
      calls := h.calls_succ (call rfl)
      creations := ?_ }, Share.Agree.nil.note _⟩
    simpa [Share.ofCreation, h.calls] using
      h.creations.insert here { cr with callers := cr.callers ++ [c.calls] }
  | started absent apart =>
    have new := creation rfl
    refine ⟨_, _, .started (h.unstored rfl absent) (h.apart apart), { h with
      calls := h.calls_succ (call rfl)
      generation := h.generation_succ new
      flight := h.insert_flight fp
      creations := h.insert_creation new fp request _ }, Share.Agree.note ⟨?_, fun n _ => rfl⟩ _⟩
    simp [Share.ask?, Effect.ask?, new]
  | @restarted _ _ _ e stored stale apart =>
    -- a creation and a release take new numbers at once
    have new := creation rfl
    have mine : s.client e.client = true := (fits.stored _ e stored).2 rfl
    have freed : s.release c.releases = true := (covers.release_eq rfl).trans (decide_eq_true rfl)
    refine ⟨_, _, .restarted (h.stored rfl stored) stale (h.apart apart), { h with
      calls := h.calls_succ (call rfl)
      generation := h.generation_succ new
      entry := by simp
      alone := fun key other => by rw [Table.get?_erase, if_neg other, h.alone key other]
      flight := h.insert_flight fp
      creations := h.insert_creation new fp request _
      releases := h.releases_succ freed
      owners := ?_
      jobs := h.releaseJobs freed }, (h.agree_releaseEffects mine).note _⟩
    rw [h.next_creation]
    exact h.insert_owner freed (.creation (c.generation + 1))
  | idle nothing => exact nothing.elim

/-- The end of a create call of a creation for the key. -/
theorem Move.follows_created {g : Nat} {result : Except ε κ} (m : Move c (.created g result) c' es)
    (fits : s.Fits c) (covers : s.Covers c (.created g result) c') (here : s.creation g = true)
    (h : s.Mirrors c d) : s.Follows d (.created g result) c' es := by
  have key {cr : Creation ρ κ ε} (under : c.creations.get? g = some cr) : cr.key = s.key :=
    (fits.creation g cr under).1 here
  cases m with
  | @stored _ x cr under stage absent =>
    have ours := key under
    have entries := h.insert_entry ours ⟨x, cr.fingerprint, g⟩
    exact ⟨_, _, .stored (h.under here under) stage (h.unstored ours absent), { h with
      entry := entries.1
      alone := entries.2
      creations := h.creations.insert here { cr with stage := .finished (.ok x) }
      jobs := h.answerJobs here }, .nil⟩
  | @superseded _ x cr e under stage present older =>
    have ours := key under
    -- ranks keep the order of the generations, so that the mirror sets the client aside as well
    have mine : s.client x = true := (covers.client g x cr rfl under stage).2 ours
    have older' : s.creationNo g < (s.ofEntry e).generation :=
      Nat.succ_lt_succ ((rank_lt_rank_iff here).2 older)
    refine ⟨_, _, .superseded (h.under here under) stage (h.stored ours present) older', { h with
      detached := ?_
      creations := h.creations.insert here { cr with stage := .finished (.ok x) }
      jobs := h.answerJobs here }, Share.Agree.nil.note _⟩
    rw [h.detached]
    by_cases aside : x ∈ c.detached <;> simp [aside, mine]
  | @replacing _ x cr e under stage present newer =>
    have freed : s.release c.releases = true := (covers.replaced_eq rfl).trans here
    have ours := key under
    have mine : s.client e.client = true := (fits.stored _ e present).2 ours
    have newer' : (s.ofEntry e).generation ≤ s.creationNo g := Nat.succ_le_succ (rank_le_rank newer)
    exact ⟨_, _, .replacing (h.under here under) stage (h.stored ours present) newer', { h with
      creations := h.creations.insert here { cr with stage := .replacing x }
      releases := h.releases_succ freed
      owners := h.insert_owner freed (.creation g)
      jobs := h.releaseJobs freed }, h.agree_releaseEffects mine⟩
  | @failed _ failure cr under stage =>
    exact ⟨_, _, .failed (h.under here under) stage, { h with
      creations := h.creations.insert here { cr with stage := .finished (.error failure) }
      jobs := h.answerJobs here }, .nil⟩
  | idle nothing =>
    refine ⟨_, _, .idle ?_, h, .nil⟩
    intro cr' under'
    rw [h.creations.get? g here, Option.map_eq_some_iff] at under'
    obtain ⟨cr, under, rfl⟩ := under'
    exact nothing cr under

/-- A cache ends a release of a sweep, whether the sweep has been answered or not. -/
theorem exists_ended {r n : Nat} (owned : d.owners.get? r = some (.sweep n)) (result : Except ε Unit) :
    ∃ sweeps jobs, Move d (.released r result)
        { d with owners := d.owners.erase r, sweeps := sweeps, jobs := jobs } [] ∧
      (∀ m, d.sweeps.get? m = none → sweeps.get? m = none) ∧
      jobs.filter (fun job => !job.concludes) = d.jobs.filter (fun job => !job.concludes) := by
  cases sweeping : d.sweeps.get? n with
  | none => exact ⟨d.sweeps, d.jobs, .forgotten owned sweeping, fun _ none => none, rfl⟩
  | some t =>
    refine ⟨_, _, .noted owned sweeping, fun m none => ?_, ?_⟩
    · rw [Table.get?_insert, if_neg, none]
      rintro rfl
      simp [sweeping] at none
    · split
      · simp [Job.concludes]
      · rfl

/-- The end of a release of a client of the key. -/
theorem Move.follows_released {r : Nat} {result : Except ε Unit} (m : Move c (.released r result) c' es)
    (fits : s.Fits c) (here : s.release r = true)
    (h : s.Mirrors c d) : s.Follows d (.released r result) c' es := by
  have owner {o : Owner} (owned : c.owners.get? r = some o) :
      d.owners.get? (s.releaseNo r) = some (s.ofOwner o) := by
    rw [h.owners.get? r here, owned, Option.map_some]
  have creation {g : Nat} (owned : c.owners.get? r = some (.creation g)) : s.creation g = true :=
    (fits.owner r g owned).symm.trans here
  cases m with
  | @connected _ g cr owned under stage =>
    have mine := creation owned
    refine ⟨_, _, .connected (owner owned) (h.under mine under) stage, { h with
      owners := h.owners.erase here
      creations := h.creations.insert mine { cr with stage := .connecting } },
      Share.Agree.note ⟨?_, fun n _ => rfl⟩ _⟩
    simp [Share.ask?, Effect.ask?, mine, Share.ofCreation]
  | @replaced _ g x cr owned under stage =>
    have mine := creation owned
    have entries := h.insert_entry ((fits.creation g cr under).1 mine) ⟨x, cr.fingerprint, g⟩
    exact ⟨_, _, .replaced (owner owned) (h.under mine under) stage, { h with
      owners := h.owners.erase here
      entry := entries.1
      alone := entries.2
      creations := h.creations.insert mine { cr with stage := .finished (.ok x) }
      jobs := h.answerJobs mine }, .nil⟩
  | @aborted _ g failure cr owned under stage =>
    have mine := creation owned
    exact ⟨_, _, .aborted (owner owned) (h.under mine under) stage, { h with
      owners := h.owners.erase here
      creations := h.creations.insert mine { cr with stage := .finished (.error failure) }
      jobs := h.answerJobs mine }, .nil⟩
  | noted owned | forgotten owned =>
    -- in the mirroring cache the sweep may have ended before
    obtain ⟨sweeps, jobs, move, unswept, same⟩ := exists_ended (owner owned) result
    refine ⟨_, _, move, { h with
      owners := h.owners.erase here
      unswept := fun n call => unswept _ (h.unswept n call)
      jobs := ?_ }, .nil⟩
    first
    | exact same.trans h.jobs
    | exact (same.trans h.jobs).trans (s.filterMap_concluded ..).symm
  | idle nothing =>
    have nothing' : d.owners.get? (s.releaseNo r) = none := by
      rw [h.owners.get? r here, nothing, Option.map_none]
    exact ⟨_, _, .idle nothing', h, .nil⟩

/-- The callers of a creation for the key are answered. -/
theorem Move.follows_answer {g : Nat} (m : Move c (.answer g) c' es) (sound : c.Sound) (fits : s.Fits c)
    (here : s.creation g = true) (h : s.Mirrors c d) : s.Follows d (.answer g) c' es := by
  cases m with
  | @answered _ outcome cr under stage =>
    have key : cr.key = s.key := (fits.creation g cr under).1 here
    refine ⟨_, _, .answered (h.under here under) stage, { h with
      creations := h.creations.erase here
      flight := ?_
      jobs := ?_
      unwaiting := ?_ }, ?_⟩
    · rw [Table.get?_filter, Table.get?_filter, h.flight]
      cases flight : c.flights.get? s.key with
      | none => rfl
      | some f =>
        -- the flight of the key is a creation for the key
        have same : s.creationNo f.generation = s.creationNo g ↔ f.generation = g :=
          Share.creationNo_inj ((fits.flight_iff sound flight).2 rfl) here
        by_cases latest : f.generation = g <;>
          simp [Share.ofFlight, Share.ofCreation, key, same, latest, Option.filter]
    · rw [h.unwaiting, fits.unwaiting]
      exact (congrArg _ (List.append_nil _)).trans (h.jobs.trans (congrArg _ (List.append_nil _).symm))
    · rw [h.unwaiting]
      rfl
    · exact Share.agree_callers (fun n caller => (fits.caller g cr n under caller).2 key) _
  | idle nothing =>
    refine ⟨_, _, .idle ?_, h, .nil⟩
    intro cr' outcome under'
    rw [h.creations.get? g here, Option.map_eq_some_iff] at under'
    obtain ⟨cr, under, rfl⟩ := under'
    exact nothing cr outcome under

/-- Clients built with other credentials are swept out. -/
theorem Move.follows_evictStale {fp : String} (m : Move c (.evictStale fp) c' es) (fits : s.Fits c)
    (covers : s.Covers c (.evictStale fp) c') (h : s.Mirrors c d) :
    s.Follows d (.evictStale fp) c' es := by
  cases m with
  | @evicted _ clients swept =>
    have evict : s.evict c.calls = true := covers.evict _ ⟨Nat.le_refl _, Nat.lt_succ_self _⟩
    have concerns : s.call c.calls = true := by rw [Share.call, evict, Bool.or_true]
    have right : ∀ i x, clients[i]? = some x → s.release (c.releases + i) = s.client x := by
      intro i x here
      obtain ⟨within, -⟩ := List.getElem?_eq_some_iff.1 here
      rw [covers.release _ ⟨Nat.le_add_right .., Nat.add_lt_add_left within _⟩, frees, ClientCache.stale,
        ← swept, Nat.add_sub_cancel_left, here]
      rfl
    have swept' : clients.filter s.client = d.detached
        ++ (d.entries.filter fun _ e => e.fingerprint ≠ fp).values.map Entry.client := by
      rw [swept]
      exact (h.stale fits fp).symm
    refine ⟨_, _, .evicted swept', { h with
      calls := h.calls_succ concerns
      detached := rfl
      entry := ?_
      alone := fun key other => ?_
      releases := ?_
      owners := h.sweepOwners right
      unswept := fun n here => ?_
      jobs := h.sweepJobs _ _ right }, h.agree_sweepEffects clients⟩
    · rw [Table.get?_filter, Table.get?_filter, h.entry]
      cases c.entries.get? s.key with
      | none => rfl
      | some e => by_cases same : e.fingerprint = fp <;> simp [Share.ofEntry, same, Option.filter]
    · rw [Table.get?_filter, h.alone key other]
      rfl
    · rw [h.releases, Share.releaseNo, Share.releaseNo, (rank_given right).1]
    · -- the call that sweeps is none that wants a client
      have unwanted : s.acquire c.calls = false := covers.acquire _ ⟨Nat.le_refl _, Nat.lt_succ_self _⟩
      have apart : s.callNo n ≠ s.callNo c.calls := by
        rw [Ne, Share.callNo_inj (Share.call_of_acquire here) concerns]
        rintro rfl
        simp [unwanted] at here
      rw [Table.get?_insert, h.calls, if_neg apart, h.unswept n here]
  | idle nothing => exact nothing.elim

/-- **What concerns the key happens in the mirroring cache too.** -/
theorem Move.follows (m : Move c a c' es) (sound : c.Sound) (fits : s.Fits c) (covers : s.Covers c a c')
    (concerns : s.keeps a = true) (h : s.Mirrors c d) : s.Follows d a c' es := by
  cases a with
  | acquire key fp request =>
    obtain rfl : key = s.key := of_decide_eq_true concerns
    exact m.follows_acquire sound fits covers h
  | evictStale fp => exact m.follows_evictStale fits covers h
  | created g result => exact m.follows_created fits covers concerns h
  | released r result => exact m.follows_released fits concerns h
  | answer g => exact m.follows_answer sound fits concerns h
  | _ => cases concerns

/-! ## What concerns other keys -/

/-- A call that wants a client for another key. -/
theorem Move.spares_acquire {key fp : String} {request : ρ} (m : Move c (.acquire key fp request) c' es)
    (sound : c.Sound) (fits : s.Fits c) (covers : s.Covers c (.acquire key fp request) c')
    (other : key ≠ s.key) (h : s.Mirrors c d) : s.Mirrors c' d ∧ s.Agree es [] := by
  have acquire (made : c'.calls = c.calls + 1) : s.acquire c.calls = false :=
    (covers.acquire_eq made).trans (decide_eq_false other)
  have calls (made : c'.calls = c.calls + 1) : d.calls = s.callNo (c.calls + 1) := by
    have evict : s.evict c.calls = false := covers.evict c.calls (by omega)
    rw [Share.callNo, rank_succ, Share.call, acquire made, evict, h.calls]
    rfl
  have creation (begun : c'.generation = c.generation + 1) : s.creation (c.generation + 1) = false :=
    (covers.creation_eq begun).trans (decide_eq_false other)
  have generation (begun : c'.generation = c.generation + 1) :
      d.generation = rank s.creation (c.generation + 1 + 1) := by
    rw [rank_succ, creation begun, h.generation]
    rfl
  have flight (f : Flight) : d.flights.get? s.key
      = ((c.flights.insert key f).get? s.key).map s.ofFlight := by
    rw [Table.get?_insert, if_neg other.symm, h.flight]
  cases m with
  | hit stored same =>
    exact ⟨{ h with calls := calls rfl }, (Share.agree_settled_other (acquire rfl) _).note_left _⟩
  | @joined _ _ _ g cr unusable flight under =>
    have foreign : s.creation g = false :=
      Bool.eq_false_iff.2 fun ours => other ((fits.flight_iff sound flight).1 ours)
    exact ⟨{ h with
      calls := calls rfl
      creations := h.creations.insert_other foreign _ }, Share.Agree.nil.note_left _⟩
  | started absent apart =>
    refine ⟨{ h with
      calls := calls rfl
      generation := generation rfl
      flight := flight _
      creations := h.creations.insert_other (creation rfl) _ },
      Share.Agree.note_left ⟨?_, fun n _ => rfl⟩ _⟩
    simp [Share.ask?, creation rfl]
  | @restarted _ _ _ e stored stale apart =>
    have freed : s.release c.releases = false := (covers.release_eq rfl).trans (decide_eq_false other)
    have foreign := fits.client_eq_false stored other
    refine ⟨{ h with
      calls := calls rfl
      generation := generation rfl
      entry := ?_
      flight := flight _
      creations := h.creations.insert_other (creation rfl) _
      releases := h.releases_other freed
      owners := h.owners.insert_other freed _
      jobs := h.releaseJobs_other freed }, (Share.agree_releaseEffects_other foreign).note_left _⟩
    rw [Table.get?_erase, if_neg other.symm, h.entry]
  | idle nothing => exact nothing.elim

/-- The end of a create call of a creation for another key. -/
theorem Move.spares_created {g : Nat} {result : Except ε κ} (m : Move c (.created g result) c' es)
    (fits : s.Fits c) (covers : s.Covers c (.created g result) c') (other : s.creation g = false)
    (h : s.Mirrors c d) : s.Mirrors c' d ∧ s.Agree es [] := by
  cases m with
  | stored under stage absent =>
    refine ⟨{ h with
      entry := ?_
      creations := h.creations.insert_other other _
      jobs := h.answerJobs_other other }, .nil⟩
    rw [Table.get?_insert, if_neg (fits.key_ne under other).symm, h.entry]
  | @superseded _ x cr e under stage present older =>
    have foreign : s.client x = false := Bool.eq_false_iff.2 fun ours =>
      fits.key_ne under other ((covers.client g x cr rfl under stage).1 ours)
    refine ⟨{ h with
      detached := ?_
      creations := h.creations.insert_other other _
      jobs := h.answerJobs_other other }, Share.Agree.nil.note_left _⟩
    rw [h.detached]
    by_cases aside : x ∈ c.detached <;> simp [aside, foreign]
  | replacing under stage present newer =>
    have freed : s.release c.releases = false := (covers.replaced_eq rfl).trans other
    have foreign := fits.client_eq_false present (fits.key_ne under other)
    exact ⟨{ h with
      creations := h.creations.insert_other other _
      releases := h.releases_other freed
      owners := h.owners.insert_other freed _
      jobs := h.releaseJobs_other freed }, Share.agree_releaseEffects_other foreign⟩
  | failed under stage =>
    exact ⟨{ h with
      creations := h.creations.insert_other other _
      jobs := h.answerJobs_other other }, .nil⟩
  | idle => exact ⟨h, .nil⟩

/-- The end of a release of a client of another key. -/
theorem Move.spares_released {r : Nat} {result : Except ε Unit} (m : Move c (.released r result) c' es)
    (fits : s.Fits c) (other : s.release r = false) (h : s.Mirrors c d) :
    s.Mirrors c' d ∧ s.Agree es [] := by
  have gone := h.owners.erase_other other
  have creation {g : Nat} (owned : c.owners.get? r = some (.creation g)) : s.creation g = false :=
    (fits.owner r g owned).symm.trans other
  cases m with
  | connected owned under stage =>
    refine ⟨{ h with
      owners := gone
      creations := h.creations.insert_other (creation owned) _ }, ?_⟩
    exact Share.Agree.note_left ⟨by simp [Share.ask?, creation owned], fun n _ => rfl⟩ _
  | replaced owned under stage =>
    refine ⟨{ h with
      owners := gone
      entry := ?_
      creations := h.creations.insert_other (creation owned) _
      jobs := h.answerJobs_other (creation owned) }, .nil⟩
    rw [Table.get?_insert, if_neg (fits.key_ne under (creation owned)).symm, h.entry]
  | aborted owned under stage =>
    exact ⟨{ h with
      owners := gone
      creations := h.creations.insert_other (creation owned) _
      jobs := h.answerJobs_other (creation owned) }, .nil⟩
  | noted => exact ⟨{ h with owners := gone, jobs := h.jobs.trans (s.filterMap_concluded ..).symm }, .nil⟩
  | forgotten => exact ⟨{ h with owners := gone }, .nil⟩
  | idle => exact ⟨h, .nil⟩

/-- The callers of a creation for another key are answered. -/
theorem Move.spares_answer {g : Nat} (m : Move c (.answer g) c' es) (fits : s.Fits c)
    (other : s.creation g = false) (h : s.Mirrors c d) : s.Mirrors c' d ∧ s.Agree es [] := by
  cases m with
  | @answered _ outcome cr under stage =>
    have key := fits.key_ne under other
    refine ⟨{ h with
      creations := h.creations.erase_other other
      flight := ?_
      jobs := ?_ }, ?_, fun n here => ?_⟩
    · rw [Table.get?_filter, h.flight]
      cases c.flights.get? s.key with
      | none => rfl
      | some f => simp [Option.filter, key.symm]
    · rw [fits.unwaiting]
      exact h.jobs.trans (congrArg _ (List.append_nil _).symm)
    · exact List.filterMap_eq_nil_iff.2 (by simp [Share.ask?])
    · -- no caller of the creation wants a client for the key
      have uncalled : n ∉ cr.callers := fun caller => key ((fits.caller g cr n under caller).1 here)
      rw [outcomesOf_callers, List.count_eq_zero_of_not_mem uncalled]
      rfl
  | idle => exact ⟨h, .nil⟩

/-- **What concerns other keys changes nothing in what is mirrored.** -/
theorem Move.spares (m : Move c a c' es) (sound : c.Sound) (fits : s.Fits c) (covers : s.Covers c a c')
    (unclear : a ≠ .clear) (other : s.keeps a = false) (h : s.Mirrors c d) :
    s.Mirrors c' d ∧ s.Agree es [] := by
  cases a with
  | acquire key fp request =>
    exact m.spares_acquire sound fits covers (of_decide_eq_false other) h
  | evictStale fp => cases other
  | clear => exact absurd rfl unclear
  | created g result => exact m.spares_created fits covers other h
  | released r result => exact m.spares_released fits other h
  | answer g => exact m.spares_answer fits other h
  | sweep n =>
    cases m with
    | swept waits => simp [fits.unwaiting] at waits
    | idle => exact ⟨h, .nil⟩
  | conclude n =>
    cases m with
    | concluded sweeping =>
      have foreign : s.acquire n = false := by
        by_contra ours
        simp [fits.unswept n (by simpa using ours)] at sweeping
      exact ⟨{ h with }, Share.agree_settled_other foreign _⟩
    | idle => exact ⟨h, .nil⟩
  | rest =>
    cases m with
    | idle => exact ⟨h, .nil⟩

/-- **The end of a sweep in the mirroring cache changes nothing in what is mirrored.** -/
theorem Move.spares_conclude {n : Nat} (m : Move d (.conclude n) d' es') (h : s.Mirrors c d) :
    s.Mirrors c d' ∧ s.Agree [] es' := by
  cases m with
  | concluded sweeping =>
    refine ⟨{ h with unswept := fun k here => ?_ }, rfl, fun k here => ?_⟩
    · rw [Table.get?_erase, h.unswept k here, ite_self]
    · have apart : n ≠ s.callNo k := by
        rintro rfl
        simp [h.unswept k here] at sweeping
      simp [outcomesOf, Effect.outcomeOf?, apart]
  | idle => exact ⟨h, .nil⟩

end ServiceAccess.ClientCache

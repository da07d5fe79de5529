import ServiceAccess.Proofs.ClientCache.Mirroring
import ServiceAccess.Proofs.ClientCache.Settling

/-! # Keys are isolated from each other

What happens to one key of a cache is the same when the cache has nothing to do with other keys.

* **`Excerpt`**: a run with everything taken out that does not concern a key: the calls for other keys, the
  ends of their create calls and releases, and their continuations. What remains keeps its order and gets
  the numbers that it has without the rest.
* **`Isolated`**: what a run and its excerpt have in common.
* **`isolated`**: this holds of every run without `clear` that creates no client twice, at each point of
  the run and for every key. -/

namespace ServiceAccess.ClientCache

open Run

variable {ρ κ ε : Type}

/-! ## Continuations -/

/-- An input that concerns the key, with its new number. -/
def Share.ofInput (s : Share κ) : Input ρ κ ε → Input ρ κ ε
  | .created g result => .created (s.creationNo g) result
  | .released r result => .released (s.releaseNo r) result
  | i => i

section
variable {s : Share κ} {c d : ClientCache ρ κ ε}

/-- A continuation that concerns the key is kept. -/
theorem Share.exists_ofJob? {job : Job} (concerns : s.keeps (job.action : Action ρ κ ε) = true) :
    ∃ job', s.ofJob? job = some job' ∧
      (job'.action : Action ρ κ ε) = s.ofAction job.action := by
  cases job with
  | answer g => exact ⟨_, if_pos concerns, rfl⟩
  | release r => exact ⟨_, if_pos concerns, rfl⟩
  | _ => cases concerns

/-- A continuation that does not concern the key is left out. -/
theorem Share.ofJob?_eq_none {job : Job} (other : s.keeps (job.action : Action ρ κ ε) = false) :
    s.ofJob? job = none := by
  cases job with
  | answer g => exact if_neg (Bool.eq_false_iff.1 other)
  | release r => exact if_neg (Bool.eq_false_iff.1 other)
  | _ => rfl

namespace Share.Mirrors

variable (h : s.Mirrors c d)
include h

/-- What concerns the key is done by both caches, once the mirroring one has answered the calls that have
swept. -/
theorem occasion {i : Input ρ κ ε} (concerns : s.keeps (c.occasion i).2 = true)
    (ready : i = .resume → ∀ n, (d.occasion .resume).2 ≠ .conclude n) :
    s.Mirrors (c.occasion i).1 (d.occasion (s.ofInput i)).1 ∧
      (d.occasion (s.ofInput i)).2 = s.ofAction (c.occasion i).2 := by
  cases i with
  | resume =>
    have first := h.jobs
    have ready := ready rfl
    simp only [ClientCache.occasion, ofInput] at concerns ready ⊢
    cases list : c.jobs with
    | nil =>
      rw [list] at concerns
      cases concerns
    | cons job jobs =>
      rw [list] at concerns first
      obtain ⟨job', kept, action⟩ := exists_ofJob? concerns
      rw [List.filterMap_cons, kept] at first
      cases list' : d.jobs with
      | nil => simp [list'] at first
      | cons k js =>
        rw [list'] at first ready
        -- what comes first does not answer a call that has swept
        have pending : k.concludes = false := by
          cases k with
          | conclude n => exact absurd rfl (ready n)
          | _ => rfl
        rw [List.filter_cons, pending] at first
        obtain ⟨rfl, rest⟩ := List.cons.inj first
        exact ⟨{ h with jobs := rest }, action⟩
  | _ => exact ⟨h, rfl⟩

/-- What does not concern the key is done by one cache only. -/
theorem occasion_other {i : Input ρ κ ε} (other : s.keeps (c.occasion i).2 = false) :
    s.Mirrors (c.occasion i).1 d := by
  cases i with
  | resume =>
    have same := h.jobs
    simp only [ClientCache.occasion] at other ⊢
    cases list : c.jobs with
    | nil => exact h
    | cons job jobs =>
      rw [list] at other same
      rw [List.filterMap_cons, ofJob?_eq_none other] at same
      exact { h with jobs := same }
  | _ => exact h

/-- The mirroring cache takes off a continuation that answers a call which has swept. -/
theorem occasion_conclude {n : Nat} (ends : (d.occasion (.resume : Input ρ κ ε)).2 = .conclude n) :
    s.Mirrors c (d.occasion .resume).1 := by
  have same := h.jobs
  simp only [ClientCache.occasion] at ends ⊢
  cases list : d.jobs with
  | nil => exact h
  | cons job jobs =>
    rw [list] at ends same
    cases job with
    | conclude m => exact { h with jobs := same }
    | _ => cases ends

variable [DecidableEq κ]

/-- A step that concerns the key. -/
theorem step {i : Input ρ κ ε} (sound : c.Sound) (fits : s.Fits (c.occasion i).1)
    (covers : s.Covers (c.occasion i).1 (c.occasion i).2 (c.step i).1)
    (concerns : s.keeps (c.occasion i).2 = true)
    (ready : i = .resume → ∀ n, (d.occasion .resume).2 ≠ .conclude n) :
    s.Mirrors (c.step i).1 (d.step (s.ofInput i)).1 ∧ s.Agree (c.step i).2 (d.step (s.ofInput i)).2 := by
  obtain ⟨before, action⟩ := h.occasion concerns ready
  obtain ⟨d', es', move, after, agree⟩ :=
    (step_move sound i).follows (sound.occasion i) fits covers concerns before
  rw [step_eq_act d, action, move.act_eq]
  exact ⟨after, agree⟩

/-- A step that does not concern the key. -/
theorem step_other {i : Input ρ κ ε} (sound : c.Sound) (fits : s.Fits (c.occasion i).1)
    (covers : s.Covers (c.occasion i).1 (c.occasion i).2 (c.step i).1)
    (unclear : (c.occasion i).2 ≠ .clear) (other : s.keeps (c.occasion i).2 = false) :
    s.Mirrors (c.step i).1 d ∧ s.Agree (c.step i).2 [] :=
  (step_move sound i).spares (sound.occasion i) fits covers unclear other (h.occasion_other other)

/-- A step that answers a call which has swept. -/
theorem step_conclude {n : Nat} (sound : d.Sound)
    (ends : (d.occasion (.resume : Input ρ κ ε)).2 = .conclude n) :
    s.Mirrors c (d.step .resume).1 ∧ s.Agree [] (d.step .resume).2 := by
  have move := step_move sound (.resume : Input ρ κ ε)
  rw [ends] at move
  exact move.spares_conclude (h.occasion_conclude ends)

end Share.Mirrors

end

/-! ## Excerpts -/

variable [DecidableEq κ]

/-- **A run with everything taken out that does not concern a key.** What concerns the key is kept, with the
numbers that it has without the rest. Of the continuations, the excerpt runs those of the key where the
whole run runs them, and those that answer a call which has swept at any time before the next one. -/
inductive Excerpt (s : Share κ) (disposes : Bool) : List (Input ρ κ ε) → List (Input ρ κ ε) → Prop where
  /-- Nothing has happened. -/
  | nil : Excerpt s disposes [] []
  /-- What concerns the key is kept. -/
  | keep {l m : List (Input ρ κ ε)} {i : Input ρ κ ε} (h : Excerpt s disposes l m)
      (concerns : s.keeps (((empty disposes).after l).occasion i).2 = true)
      (ready : i = .resume → ∀ n, (((empty disposes).after m).occasion .resume).2 ≠ .conclude n) :
      Excerpt s disposes (l ++ [i]) (m ++ [s.ofInput i])
  /-- What does not concern the key is taken out. -/
  | drop {l m : List (Input ρ κ ε)} {i : Input ρ κ ε} (h : Excerpt s disposes l m)
      (other : s.keeps (((empty disposes).after l).occasion i).2 = false) :
      Excerpt s disposes (l ++ [i]) m
  /-- A call that has swept is answered. -/
  | conclude {l m : List (Input ρ κ ε)} {n : Nat} (h : Excerpt s disposes l m)
      (ends : (((empty disposes).after m).occasion .resume).2 = .conclude n) :
      Excerpt s disposes l (m ++ [.resume])

/-- **What a run has in common with its excerpt for a key.** -/
structure Isolated (s : Share κ) (disposes : Bool) (l m : List (Input ρ κ ε)) : Prop where
  /-- The excerpt has to do with the key only. -/
  alone : ∀ key fp request, .acquire key fp request ∈ m → key = s.key
  /-- The same client is stored under the key, built with the same credentials. -/
  entry : (((empty disposes).after l).entries.get? s.key).map (fun e => (e.client, e.fingerprint))
    = (((empty disposes).after m).entries.get? s.key).map fun e => (e.client, e.fingerprint)
  /-- The key has a flight with the same credentials, or none. -/
  flight : (((empty disposes).after l).flights.get? s.key).map Flight.fingerprint
    = (((empty disposes).after m).flights.get? s.key).map Flight.fingerprint
  /-- Every call for a client of the key has the same outcome, if it has one. -/
  outcome : ∀ before fp request, before ++ [.acquire s.key fp request] <+: l →
    ∃ before', Excerpt s disposes before before' ∧ before' ++ [.acquire s.key fp request] <+: m ∧
      outcomesOf ((empty disposes).after before).calls ((empty disposes).asked l)
        = outcomesOf ((empty disposes).after before').calls ((empty disposes).asked m)
  /-- The create calls for the key and the releases of its clients are all that the excerpt asks for. -/
  asks : ((empty disposes).asked l).filterMap s.ask? = ((empty disposes).asked m).filterMap Effect.ask?

variable {s : Share κ} {disposes : Bool} {l m : List (Input ρ κ ε)}

/-- A call for a client of another key is in no excerpt. -/
theorem Excerpt.alone (h : Excerpt s disposes l m) {key fp : String} {request : ρ}
    (here : .acquire key fp request ∈ m) : key = s.key := by
  induction h with
  | nil => cases here
  | @keep l m i h concerns ready ih =>
    rcases List.mem_append.1 here with before | now
    · exact ih before
    · cases i with
      | acquire k f r =>
        obtain ⟨rfl, -, -⟩ := Input.acquire.inj (List.mem_singleton.1 now)
        exact of_decide_eq_true concerns
      | _ => simp [Share.ofInput] at now
  | drop _ _ ih => exact ih here
  | conclude _ _ ih =>
    rcases List.mem_append.1 here with before | now
    · exact ih before
    · simp at now

/-- What is kept of a run stands in the excerpt behind an excerpt of what was before. -/
theorem Excerpt.exists_before (h : Excerpt s disposes l m) {before : List (Input ρ κ ε)}
    {i : Input ρ κ ε} (part : before ++ [i] <+: l)
    (concerns : s.keeps (((empty disposes).after before).occasion i).2 = true) :
    ∃ before', Excerpt s disposes before before' ∧ before' ++ [s.ofInput i] <+: m := by
  induction h with
  | nil => simp at part
  | @keep l m j h _ _ ih =>
    rcases List.prefix_concat_iff.1 part with same | earlier
    · obtain ⟨rfl, last⟩ := List.append_inj' same rfl
      obtain rfl := List.singleton_inj.1 last
      exact ⟨m, h, List.prefix_refl _⟩
    · obtain ⟨before', excerpt, within⟩ := ih earlier
      exact ⟨before', excerpt, within.trans (List.prefix_append ..)⟩
  | @drop l m j h other ih =>
    rcases List.prefix_concat_iff.1 part with same | earlier
    · obtain ⟨rfl, last⟩ := List.append_inj' same rfl
      obtain rfl := List.singleton_inj.1 last
      simp [concerns] at other
    · exact ih earlier
  | conclude _ _ ih =>
    obtain ⟨before', excerpt, within⟩ := ih part
    exact ⟨before', excerpt, within.trans (List.prefix_append ..)⟩

/-- The answer to a call that has swept takes its continuation off the list. -/
theorem length_jobs_of_conclude {d : ClientCache ρ κ ε} {n : Nat}
    (ends : (d.occasion (.resume : Input ρ κ ε)).2 = .conclude n) :
    (d.step .resume).1.jobs.length < d.jobs.length := by
  rw [step_eq_act]
  simp only [occasion] at ends ⊢
  cases list : d.jobs with
  | nil =>
    rw [list] at ends
    cases ends
  | cons job jobs =>
    rw [list] at ends
    rw [ends, act, concludeSweep]
    split <;> exact Nat.lt_succ_self _

/-- An excerpt goes on until all calls that have swept are answered. -/
theorem Excerpt.exists_ready (h : Excerpt s disposes l m) :
    ∃ m', Excerpt s disposes l m' ∧
      ∀ n, (((empty disposes).after m').occasion .resume).2 ≠ .conclude n := by
  induction k : ((empty disposes).after m).jobs.length using Nat.strongRecOn generalizing m with
  | ind k ih =>
    by_cases pending : ∃ n, (((empty disposes).after m).occasion .resume).2 = .conclude n
    · obtain ⟨n, ends⟩ := pending
      refine ih _ ?_ (h.conclude ends) rfl
      rw [after_concat, ← k]
      exact length_jobs_of_conclude ends
    · exact ⟨m, h, fun n ends => pending ⟨n, ends⟩⟩

/-- Every run has an excerpt. -/
theorem exists_excerpt (s : Share κ) (disposes : Bool) (l : List (Input ρ κ ε)) :
    ∃ m, Excerpt s disposes l m := by
  induction l using List.reverseRecOn with
  | nil => exact ⟨[], .nil⟩
  | append_singleton l i ih =>
    obtain ⟨m, h⟩ := ih
    cases concerns : s.keeps (((empty disposes).after l).occasion i).2 with
    | false => exact ⟨m, h.drop concerns⟩
    | true =>
      obtain ⟨m', h', ready⟩ := h.exists_ready
      exact ⟨_, h'.keep concerns fun _ => ready⟩

/-! ## Runs -/

/-- **The excerpt of a run leaves a cache that mirrors that of the run**, and asks for the same. -/
theorem Excerpt.mirrors {key : String} {inputs : List (Input ρ κ ε)} (unclear : .clear ∉ inputs)
    (distinct : ((empty disposes).made inputs).Nodup) (part : l <+: inputs)
    (h : Excerpt (share disposes key inputs) disposes l m) :
    (share disposes key inputs).Mirrors ((empty disposes).after l) ((empty disposes).after m) ∧
      (share disposes key inputs).Agree ((empty disposes).asked l) ((empty disposes).asked m) := by
  induction h with
  | nil => exact ⟨Share.mirrors_empty _ disposes (share_creation_zero ..), .nil⟩
  | @keep l m i h concerns ready ih =>
    have earlier := (List.prefix_append ..).trans part
    obtain ⟨mirrors, agree⟩ := ih earlier
    have fits := (fits_after key unclear distinct earlier).occasion i
    obtain ⟨mirrors', agree'⟩ :=
      mirrors.step (sound_after disposes l) fits (share_covers key distinct part) concerns ready
    rw [after_concat, after_concat, asked_concat, asked_concat]
    exact ⟨mirrors', agree.append agree'⟩
  | @drop l m i h other ih =>
    have earlier := (List.prefix_append ..).trans part
    obtain ⟨mirrors, agree⟩ := ih earlier
    have fits := (fits_after key unclear distinct earlier).occasion i
    obtain ⟨mirrors', agree'⟩ := mirrors.step_other (sound_after disposes l) fits
      (share_covers key distinct part) (ne_clear_of_occasion unclear part) other
    rw [after_concat, asked_concat, ← List.append_nil ((empty disposes).asked m)]
    exact ⟨mirrors', agree.append agree'⟩
  | @conclude l m n h ends ih =>
    obtain ⟨mirrors, agree⟩ := ih part
    obtain ⟨mirrors', agree'⟩ := mirrors.step_conclude (sound_after disposes m) ends
    rw [after_concat, asked_concat, ← List.append_nil ((empty disposes).asked l)]
    exact ⟨mirrors', agree.append agree'⟩

/-- **Keys are isolated from each other.** Take a run of calls for clients of any keys and of sweeps, in
which no client is created twice. At each point of it, and for every key, what does not concern the key can
be taken out, and however that is done, the rest has the same in common with the whole: the stored client
of the key, its flight, the outcomes of the calls for its clients, and what is asked for on its behalf. So
none of it depends on whether, when or how the create calls and releases for other keys end. -/
theorem isolated (disposes : Bool) (key : String) {inputs : List (Input ρ κ ε)} (unclear : .clear ∉ inputs)
    (distinct : ((empty disposes).made inputs).Nodup) {l : List (Input ρ κ ε)} (part : l <+: inputs) :
    (∃ m, Excerpt (share disposes key inputs) disposes l m) ∧
      ∀ m, Excerpt (share disposes key inputs) disposes l m →
        Isolated (share disposes key inputs) disposes l m := by
  refine ⟨exists_excerpt _ _ l, fun m h => ?_⟩
  obtain ⟨mirrors, agree⟩ := h.mirrors unclear distinct part
  refine ⟨fun _ _ _ => h.alone, ?_, ?_, fun before fp request within => ?_, agree.asks⟩
  · rw [mirrors.entry, Option.map_map]
    rfl
  · rw [mirrors.flight, Option.map_map]
    rfl
  · have concerns : (share disposes key inputs).keeps
        (((empty disposes).after before).occasion (.acquire key fp request)).2 = true :=
      decide_eq_true rfl
    obtain ⟨before', excerpt, within'⟩ := h.exists_before within concerns
    refine ⟨before', excerpt, within', ?_⟩
    -- the call has its number from the calls before it, in the run as in the excerpt
    have earlier := (List.prefix_append ..).trans (within.trans part)
    rw [(excerpt.mirrors unclear distinct earlier).1.calls]
    refine agree.outcomes _ ?_
    have sound := sound_after (ρ := ρ) (κ := κ) (ε := ε) disposes before
    have made := calls_lt_of_isCall sound (i := .acquire key fp request) rfl
    have covers := share_covers key distinct (within.trans part)
    exact (covers.acquire _ ⟨Nat.le_refl _, made⟩).trans (decide_eq_true rfl)

/-- Clients are wanted for two keys. The create call for one of them fails late, and the release of the client
of the other one fails. -/
def entangled : List (Input Unit Nat String) :=
  [.acquire "api" "old" (), .acquire "db" "old" (), .created 2 (.ok 20), .created 1 (.error "refused"),
    .resume, .resume, .evictStale "new", .released 0 (.error "lost"), .resume, .acquire "db" "new" ()]

/-- The same for the second key alone. -/
def disentangled : List (Input Unit Nat String) :=
  [.acquire "db" "old" (), .created 1 (.ok 20), .resume, .evictStale "new", .released 0 (.error "lost"),
    .resume, .acquire "db" "new" ()]

theorem isolated_entangled : .clear ∉ entangled ∧ ((empty true).made entangled).Nodup ∧
    Excerpt (share true "db" entangled) true entangled disentangled ∧
    Isolated (share true "db" entangled) true entangled disentangled := by
  have unclear : .clear ∉ entangled := by simp [entangled]
  have distinct : ((empty true).made entangled).Nodup := by decide
  have start : Excerpt (share true "db" entangled) true ([] : List (Input Unit Nat String)) [] := .nil
  have stored := (((start.drop (i := .acquire "api" "old" ()) rfl).keep
    (i := .acquire "db" "old" ()) rfl nofun).keep (i := .created 2 (.ok 20)) rfl nofun).drop
    (i := .created 1 (.error "refused")) rfl
  -- the continuation of the first key comes second
  have answered := (stored.keep (i := .resume) rfl nofun).drop (i := .resume) rfl
  have swept := ((answered.keep (i := .evictStale "new") rfl nofun).keep
    (i := .released 0 (.error "lost")) rfl nofun).drop (i := .resume) rfl
  have excerpt := (swept.conclude (n := 1) rfl).keep (i := .acquire "db" "new" ()) rfl nofun
  exact ⟨unclear, distinct, excerpt, (isolated true "db" unclear distinct (List.prefix_refl _)).2 _ excerpt⟩

end ServiceAccess.ClientCache

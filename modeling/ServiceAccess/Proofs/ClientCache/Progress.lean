import ServiceAccess.Proofs.ClientCache.Calls

/-! # Progress of a client cache

Whoever waits in a cache waits for something that is bound to come: a continuation on the list, a release
or a create call that is outstanding.

* **`Live`**: what each party waits for is there.
* **`Orderly`**: a cache is sound, attended and live. Every run keeps this (`Orderly.after`).
* **`Live.creation_unstuck`**, **`Live.waiting_unstuck`**, **`Live.sweep_unstuck`**: with no continuation
  left to run, whoever is not answered waits for the surroundings. -/

namespace ServiceAccess.ClientCache

variable {ρ κ ε : Type}

/-! ## Live caches -/

/-- **What each party waits for is there**, while an action is done: the continuation of the action counts
as one that is still to run. -/
structure LiveDuring (c : ClientCache ρ κ ε) (a : Action ρ κ ε) : Prop where
  /-- A clear call that waits for no flight is about to sweep. -/
  ready_sweeps : ∀ n w, c.waiting.get? n = some w → w.awaited = [] → .sweep n ∈ c.jobs ∨ a = .sweep n
  /-- A clear call that is about to sweep waits for no flight. -/
  sweeps_ready : ∀ n w, .sweep n ∈ c.jobs ∨ a = .sweep n → c.waiting.get? n = some w → w.awaited = []
  /-- A clear call waits for creations whose callers have not been answered. -/
  awaited_under : ∀ n w g, c.waiting.get? n = some w → g ∈ w.awaited → c.creations.get? g ≠ none
  /-- A sweep whose releases are over is about to be answered. -/
  over_concludes : ∀ n s, c.sweeps.get? n = some s → s.isOver → .conclude n ∈ c.jobs ∨ a = .conclude n
  /-- A release that a sweep waits for is outstanding. -/
  open_owned : ∀ n s r, c.sweeps.get? n = some s → (r, none) ∈ s.releases →
    c.owners.get? r = some (.sweep n)
  /-- A release that a creation waits for is outstanding. -/
  waits_owned : ∀ g cr, c.creations.get? g = some cr →
    (cr.stage = .releasing ∨ ∃ x, cr.stage = .replacing x) → ∃ r, c.owners.get? r = some (.creation g)
  /-- The callers of a finished creation are about to be answered. -/
  finished_answers : ∀ g cr outcome, c.creations.get? g = some cr → cr.stage = .finished outcome →
    .answer g ∈ c.jobs ∨ a = .answer g
  /-- Without a dispose hook, an outstanding release is about to end. -/
  hookless_ends : ∀ r o, c.disposes = false → c.owners.get? r = some o →
    .release r ∈ c.jobs ∨ a = .released r (.ok ())
  /-- With a dispose hook, no release ends by itself. -/
  ends_hookless : ∀ r, .release r ∈ c.jobs → c.disposes = false
  /-- Who is about to sweep is a call. -/
  sweep_lt : ∀ n, .sweep n ∈ c.jobs → n < c.calls

/-- **What each party waits for is there.** -/
abbrev Live (c : ClientCache ρ κ ε) : Prop := c.LiveDuring .rest

/-- In the empty cache nobody waits. -/
theorem live_empty (disposes : Bool) : Live (.empty disposes : ClientCache ρ κ ε) := by
  constructor <;> simp [empty]

/-- Taking a continuation off the list to run it makes nobody wait in vain. -/
theorem Live.occasion {c : ClientCache ρ κ ε} (h : c.Live) (i : Input ρ κ ε) :
    (c.occasion i).1.LiveDuring (c.occasion i).2 := by
  obtain ⟨jobs, same⟩ := c.occasion_fst i
  -- a continuation stays on the list or is the one that runs, and only what was on the list runs
  have runs {job : Job} (here : job ∈ c.jobs ∨ (.rest : Action ρ κ ε) = job.action) :
      job ∈ jobs ∨ (c.occasion i).2 = job.action := by
    rcases here with here | now
    · simpa [same] using occasion_of_mem_jobs i here
    · cases job <;> cases now
  have stays {job : Job} (here : job ∈ jobs) : job ∈ c.jobs := mem_jobs_of_occasion (i := i) (by rwa [same])
  have sweeps {n : Nat} (soon : .sweep n ∈ jobs ∨ (c.occasion i).2 = .sweep n) : .sweep n ∈ c.jobs :=
    soon.elim stays (mem_jobs_of_action (.sweep n) (by simp))
  rw [same]
  exact {
    ready_sweeps := fun n w waits ready => runs (h.ready_sweeps n w waits ready)
    sweeps_ready := fun n w soon waits => h.sweeps_ready n w (.inl (sweeps soon)) waits
    awaited_under := h.awaited_under
    over_concludes := fun n s sweeping ended => runs (h.over_concludes n s sweeping ended)
    open_owned := h.open_owned
    waits_owned := h.waits_owned
    finished_answers := fun g cr outcome under ended => runs (h.finished_answers g cr outcome under ended)
    hookless_ends := fun r o hook owned => runs (h.hookless_ends r o hook owned)
    ends_hookless := fun r soon => h.ends_hookless r (stays soon)
    sweep_lt := fun n soon => h.sweep_lt n (stays soon) }

variable [DecidableEq κ]
variable {c c' : ClientCache ρ κ ε} {a : Action ρ κ ε} {es : List (Effect ρ κ ε)}

omit [DecidableEq κ] in
/-- A sweep that has just started is over exactly when it has no release. -/
theorem isOver_fresh (answer : Answer κ) (first n : Nat) :
    Sweep.isOver (⟨answer, (List.range' first n).map fun r => (r, none)⟩ : Sweep κ ε) = true
      ↔ n = 0 := by
  cases n <;> simp [Sweep.isOver, List.range'_succ]

omit [DecidableEq κ] in
/-- The releases of a sweep that are open after one has been noted are other ones. -/
theorem open_note {s : Sweep κ ε} {n r : Nat} {result : Except ε Unit}
    (still : (r, none) ∈ (s.note n result).releases) : (r, none) ∈ s.releases ∧ r ≠ n := by
  simp only [Sweep.note, List.mem_map] at still
  obtain ⟨⟨m, past⟩, here, same⟩ := still
  by_cases hit : m = n
  · simp [hit] at same
  · rw [if_neg hit] at same
    obtain ⟨rfl, rfl⟩ := Prod.mk.inj same
    exact ⟨here, hit⟩

/-! ## What is scheduled -/

/-- Continuations are scheduled behind the others. -/
theorem Move.jobs_prefix (m : Move c a c' es) : c.jobs <+: c'.jobs := by
  cases m with
  | restarted | replacing =>
    simp only [releaseJobs]
    split <;> simp
  | evicted | swept =>
    simp only [sweepJobs]
    split
    · simp
    · split <;> simp
  | cleared | noted => dsimp only; split <;> simp
  | _ => simp

/-- A sweep that a move schedules is that of a clear call that waits for nothing. -/
theorem Move.sweep_scheduled (m : Move c a c' es) {n : Nat} (soon : .sweep n ∈ c'.jobs) :
    .sweep n ∈ c.jobs ∨ ∃ w, c'.waiting.get? n = some w ∧ w.awaited = [] := by
  cases m with
  | cleared =>
    dsimp only at soon
    split at soon
    · next none =>
      rcases List.mem_append.1 soon with before | new
      · exact .inl before
      · obtain rfl := Job.sweep.inj (List.mem_singleton.1 new)
        exact .inr ⟨_, Table.get?_insert_self .., List.isEmpty_iff.1 none⟩
    · exact .inl soon
  | @answered g =>
    rcases List.mem_append.1 soon with before | new
    · exact .inl before
    · -- the answered creation was all that the call waited for
      obtain ⟨n', notified, same⟩ := List.mem_map.1 new
      obtain rfl := Job.sweep.inj same
      obtain ⟨w, heard⟩ := Table.mem_keys_iff.1 notified
      rw [Table.get?_filter, Option.filter_eq_some_iff, Bool.and_eq_true, List.all_eq_true] at heard
      obtain ⟨waits, -, only⟩ := heard
      refine .inr ⟨⟨w.horizon, w.awaited.filter fun h => !decide (h = g)⟩, ?_, List.filter_eq_nil_iff.2 ?_⟩
      · rw [Table.get?_map, waits]
        rfl
      · intro f here
        simp [of_decide_eq_true (only f here)]
  | restarted | replacing =>
    simp only [releaseJobs] at soon
    split at soon <;> exact .inl (by simpa using soon)
  | evicted | swept =>
    simp only [sweepJobs] at soon
    split at soon
    · exact .inl (by simpa using soon)
    · split at soon <;> exact .inl (by simpa using soon)
  | noted =>
    dsimp only at soon
    split at soon <;> exact .inl (by simpa using soon)
  | _ => exact .inl (by simpa using soon)

/-! ## Live caches stay live -/

section
variable (m : Move c a c' es) (sound : c.Sound) (h : c.LiveDuring a)
include m h

/-- A clear call that waits for no flight has waited for none, or for the last one that is answered. -/
theorem Move.ready_sweeps {n : Nat} {w : Waiting} (waits : c'.waiting.get? n = some w) (ready : w.awaited = []) :
    .sweep n ∈ c'.jobs := by
  have still {n : Nat} {w : Waiting} (waits : c.waiting.get? n = some w) (ready : w.awaited = [])
      (other : a ≠ .sweep n) : .sweep n ∈ c'.jobs :=
    m.jobs_prefix.subset ((h.ready_sweeps n w waits ready).resolve_right other)
  cases m with
  | cleared =>
    rw [Table.get?_insert] at waits
    split at waits
    · subst n
      obtain rfl := Option.some.inj waits
      simp only at ready
      simp [ready]
    · exact still waits ready (by simp)
  | @answered g =>
    rw [Table.get?_map, Option.map_eq_some_iff] at waits
    obtain ⟨w₀, waits, rfl⟩ := waits
    by_cases before : w₀.awaited = []
    · exact still waits before (by simp)
    · -- it has waited for the answered creation and for nothing else
      have only : ∀ f ∈ w₀.awaited, f = g := by simpa using List.filter_eq_nil_iff.1 ready
      obtain ⟨f, here⟩ := List.exists_mem_of_ne_nil _ before
      refine List.mem_append_right _ (List.mem_map.2 ⟨n, Table.mem_keys_iff.2 ⟨w₀, ?_⟩, rfl⟩)
      rw [Table.get?_filter, Option.filter_eq_some_iff, Bool.and_eq_true, List.all_eq_true]
      refine ⟨waits, ?_, fun f' here' => decide_eq_true (only f' here')⟩
      exact List.contains_iff_mem.2 (only f here ▸ here)
  | swept =>
    rw [Table.get?_erase] at waits
    split at waits
    · cases waits
    · next other => exact still waits ready fun same => other (Action.sweep.inj same).symm
  | idle nothing =>
    refine still waits ready ?_
    rintro rfl
    simp [nothing] at waits
  | _ => exact still waits ready (by simp)

/-- A clear call that is about to sweep goes on waiting for nothing. -/
theorem Move.sweeps_ready {n : Nat} {w : Waiting} (soon : .sweep n ∈ c'.jobs) (waits : c'.waiting.get? n = some w) :
    w.awaited = [] := by
  rcases m.sweep_scheduled soon with before | ⟨w', waits', ready⟩
  · cases m with
    | cleared =>
      -- it is not the call that is being made
      rw [Table.get?_insert, if_neg (Nat.ne_of_lt (h.sweep_lt n before))] at waits
      exact h.sweeps_ready n w (.inl before) waits
    | answered =>
      rw [Table.get?_map, Option.map_eq_some_iff] at waits
      obtain ⟨w₀, waits, rfl⟩ := waits
      simp [h.sweeps_ready n w₀ (.inl before) waits]
    | swept =>
      rw [Table.get?_erase] at waits
      split at waits
      · cases waits
      · exact h.sweeps_ready n w (.inl before) waits
    | _ => exact h.sweeps_ready n w (.inl before) waits
  · obtain rfl := Option.some.inj (waits.symm.trans waits')
    exact ready

include sound in
/-- A clear call waits for the flights of its moment, and no longer for one that is answered. -/
theorem Move.awaited_under {n g : Nat} {w : Waiting} (waits : c'.waiting.get? n = some w) (here : g ∈ w.awaited) :
    c'.creations.get? g ≠ none := by
  have stays {g : Nat} (under : c.creations.get? g ≠ none) (other : a ≠ .answer g) : c'.creations.get? g ≠ none := by
    obtain ⟨cr, under⟩ := Option.ne_none_iff_exists'.1 under
    rcases m.continues sound under with ⟨cr', under', -⟩ | ⟨-, answer, -⟩
    · simp [under']
    · exact absurd answer other
  cases m with
  | cleared =>
    rw [Table.get?_insert] at waits
    split at waits
    · -- the flights of the moment are creations under way
      obtain rfl := Option.some.inj waits
      obtain ⟨f, flying, rfl⟩ := List.mem_map.1 here
      obtain ⟨key, flight⟩ := Table.mem_values_iff.1 flying
      obtain ⟨cr, under, -⟩ := sound.flight_creation key f flight
      simp [under]
    · exact h.awaited_under n w g waits here
  | answered =>
    rw [Table.get?_map, Option.map_eq_some_iff] at waits
    obtain ⟨w₀, waits, rfl⟩ := waits
    obtain ⟨before, other⟩ := List.mem_filter.1 here
    exact stays (h.awaited_under n w₀ g waits before) (by rintro ⟨⟩; simp at other)
  | swept =>
    rw [Table.get?_erase] at waits
    split at waits
    · cases waits
    · exact h.awaited_under n w g waits here
  | idle => exact h.awaited_under n w g waits here
  | _ => exact stays (h.awaited_under n w g waits here) (by simp)

/-- The move that ends the last release of a sweep, or finds none to start, schedules its answer. -/
theorem Move.over_concludes {n : Nat} {s : Sweep κ ε} (sweeping : c'.sweeps.get? n = some s) (ended : s.isOver) :
    .conclude n ∈ c'.jobs := by
  have still {n : Nat} {s : Sweep κ ε} (sweeping : c.sweeps.get? n = some s) (ended : s.isOver)
      (other : a ≠ .conclude n) : .conclude n ∈ c'.jobs :=
    m.jobs_prefix.subset ((h.over_concludes n s sweeping ended).resolve_right other)
  cases m with
  | evicted | swept =>
    rw [Table.get?_insert] at sweeping
    split at sweeping
    · subst n
      -- a sweep is over at once when it finds no client
      obtain rfl := Option.some.inj sweeping
      rw [isOver_fresh, List.length_eq_zero_iff] at ended
      simp [ended]
    · exact still sweeping ended (by simp)
  | noted =>
    rw [Table.get?_insert] at sweeping
    split at sweeping
    · subst n
      obtain rfl := Option.some.inj sweeping
      simp [ended]
    · exact still sweeping ended (by simp)
  | concluded =>
    -- the sweep that has just been answered is gone, and another one has its own answer
    rw [Table.get?_erase] at sweeping
    split at sweeping
    · cases sweeping
    · next other => exact still sweeping ended fun same => other (Action.conclude.inj same).symm
  | idle nothing =>
    refine still sweeping ended ?_
    rintro rfl
    simp [nothing] at sweeping
  | _ => exact still sweeping ended (by simp)

include sound in
/-- A sweep waits for the releases that it starts until their ends are noted. -/
theorem Move.open_owned {n r : Nat} {s : Sweep κ ε} (sweeping : c'.sweeps.get? n = some s)
    (waits : (r, none) ∈ s.releases) : c'.owners.get? r = some (.sweep n) := by
  have still {n : Nat} {s : Sweep κ ε} (sweeping : c.sweeps.get? n = some s) (waits : (r, none) ∈ s.releases)
      (goes : ∀ result, a ≠ .released r result) : c'.owners.get? r = some (.sweep n) :=
    m.owner_stays sound (h.open_owned n s r sweeping waits) goes
  cases m with
  | evicted | swept =>
    rw [Table.get?_insert] at sweeping
    split at sweeping
    · subst n
      obtain rfl := Option.some.inj sweeping
      obtain ⟨r', within, same⟩ := List.mem_map.1 waits
      obtain rfl := (Prod.mk.inj same).1
      rw [get?_sweepOwners, if_pos (List.mem_range'_1.1 within)]
    · exact still sweeping waits (by simp)
  | noted owned before =>
    rw [Table.get?_insert] at sweeping
    split at sweeping
    · subst n
      obtain rfl := Option.some.inj sweeping
      obtain ⟨waits₀, other⟩ := open_note waits
      exact still before waits₀ (by rintro result ⟨⟩; exact other rfl)
    · next other =>
      refine still sweeping waits ?_
      rintro result ⟨⟩
      -- the release that ends is that of another sweep
      rw [h.open_owned n s r sweeping waits] at owned
      exact other (Owner.sweep.inj (Option.some.inj owned))
  | connected owned | replaced owned | aborted owned =>
    refine still sweeping waits ?_
    rintro result ⟨⟩
    rw [h.open_owned n s r sweeping waits] at owned
    cases owned
  | forgotten owned gone =>
    refine still sweeping waits ?_
    rintro result ⟨⟩
    rw [h.open_owned n s r sweeping waits] at owned
    obtain rfl := Owner.sweep.inj (Option.some.inj owned)
    simp [gone] at sweeping
  | concluded =>
    rw [Table.get?_erase] at sweeping
    split at sweeping
    · cases sweeping
    · exact still sweeping waits (by simp)
  | idle => exact h.open_owned n s r sweeping waits
  | _ => exact still sweeping waits (by simp)

include sound in
/-- A creation waits for a release from the move that starts it to the move that ends it. -/
theorem Move.waits_owned {g : Nat} {cr' : Creation ρ κ ε} (under : c'.creations.get? g = some cr')
    (waits : cr'.stage = .releasing ∨ ∃ x, cr'.stage = .replacing x) : ∃ r, c'.owners.get? r = some (.creation g) := by
  have still {g : Nat} {cr : Creation ρ κ ε} (under : c.creations.get? g = some cr)
      (waits : cr.stage = .releasing ∨ ∃ x, cr.stage = .replacing x)
      (goes : ∀ r result, a = .released r result → c.owners.get? r ≠ some (.creation g)) :
      ∃ r, c'.owners.get? r = some (.creation g) := by
    obtain ⟨r, owned⟩ := h.waits_owned g cr under waits
    exact ⟨r, m.owner_stays sound owned fun result ends => goes r result ends owned⟩
  cases m with
  | joined _ _ under₀ =>
    rw [Table.get?_insert] at under
    split at under
    · subst g
      obtain rfl := Option.some.inj under
      exact still under₀ waits (by simp)
    · exact still under waits (by simp)
  | restarted | replacing =>
    rw [Table.get?_insert] at under
    split at under
    · subst g
      exact ⟨c.releases, Table.get?_insert_self ..⟩
    · exact still under waits (by simp)
  -- no other stage waits for a release
  | started | stored | superseded | failed =>
    rw [Table.get?_insert] at under
    split at under
    · obtain rfl := Option.some.inj under
      simp at waits
    · exact still under waits (by simp)
  | connected owned | replaced owned | aborted owned =>
    rw [Table.get?_insert] at under
    split at under
    · obtain rfl := Option.some.inj under
      simp at waits
    · next other =>
      refine still under waits ?_
      rintro r result ⟨⟩ owned'
      exact other (Owner.creation.inj (Option.some.inj (owned'.symm.trans owned)))
  | noted owned | forgotten owned =>
    refine still under waits ?_
    rintro r result ⟨⟩ owned'
    cases owned'.symm.trans owned
  | answered =>
    rw [Table.get?_erase] at under
    split at under
    · cases under
    · exact still under waits (by simp)
  | idle => exact h.waits_owned g cr' under waits
  | _ => exact still under waits (by simp)

/-- The move that ends a creation schedules the answer to its callers. -/
theorem Move.finished_answers {g : Nat} {cr' : Creation ρ κ ε} {outcome : Except ε κ}
    (under : c'.creations.get? g = some cr') (ended : cr'.stage = .finished outcome) : .answer g ∈ c'.jobs := by
  have still {g : Nat} {cr : Creation ρ κ ε} (under : c.creations.get? g = some cr)
      (ended : cr.stage = .finished outcome) (other : a ≠ .answer g) : .answer g ∈ c'.jobs :=
    m.jobs_prefix.subset ((h.finished_answers g cr outcome under ended).resolve_right other)
  cases m with
  | joined _ _ under₀ =>
    rw [Table.get?_insert] at under
    split at under
    · subst g
      obtain rfl := Option.some.inj under
      exact still under₀ ended (by simp)
    · exact still under ended (by simp)
  -- these moves end a creation
  | stored | superseded | failed | replaced | aborted =>
    rw [Table.get?_insert] at under
    split at under
    · subst g
      exact List.mem_append_right _ (List.mem_singleton_self _)
    · exact still under ended (by simp)
  -- these leave it in a stage in which it is not over
  | started | restarted | replacing | connected =>
    rw [Table.get?_insert] at under
    split at under
    · obtain rfl := Option.some.inj under
      cases ended
    · exact still under ended (by simp)
  | answered =>
    rw [Table.get?_erase] at under
    split at under
    · cases under
    · next other => exact still under ended fun same => other (Action.answer.inj same).symm
  | idle nothing =>
    refine still under ended ?_
    rintro rfl
    exact nothing cr' outcome under ended
  | _ => exact still under ended (by simp)

/-- Without a dispose hook, the move that starts a release schedules its end. -/
theorem Move.hookless_ends {r : Nat} {o : Owner} (hook : c.disposes = false) (owned : c'.owners.get? r = some o) :
    .release r ∈ c'.jobs := by
  have still (owned : c.owners.get? r = some o) (goes : ∀ result, a ≠ .released r result) : .release r ∈ c'.jobs :=
    m.jobs_prefix.subset ((h.hookless_ends r o hook owned).resolve_right (goes _))
  cases m with
  | restarted | replacing =>
    rw [Table.get?_insert] at owned
    split at owned
    · subst r
      simp [releaseJobs, hook]
    · exact still owned (by simp)
  | evicted | swept =>
    rw [get?_sweepOwners] at owned
    split at owned
    · next new =>
      -- the release has a number of the sweep, which is therefore not empty
      rw [if_neg, sweepJobs, hook]
      · exact List.mem_append_right _ (List.mem_map.2 ⟨r, List.mem_range'_1.2 new, rfl⟩)
      · rintro none
        rw [List.isEmpty_iff.1 none] at new
        exact Nat.not_le_of_lt new.2 new.1
    · exact still owned (by simp)
  | connected | replaced | aborted | noted | forgotten =>
    rw [Table.get?_erase] at owned
    split at owned
    · cases owned
    · next other => exact still owned (by rintro result ⟨⟩; exact other rfl)
  | idle nothing =>
    refine still owned ?_
    rintro result rfl
    simp [nothing] at owned
  | _ => exact still owned (by simp)

/-- With a dispose hook, no move schedules the end of a release. -/
theorem Move.ends_hookless {r : Nat} (soon : .release r ∈ c'.jobs) : c.disposes = false := by
  cases m with
  | restarted | replacing =>
    simp only [releaseJobs] at soon
    split at soon
    · exact h.ends_hookless r soon
    · next hook => exact Bool.eq_false_iff.2 hook
  | evicted | swept =>
    simp only [sweepJobs] at soon
    split at soon
    · exact h.ends_hookless r (by simpa using soon)
    · split at soon
      · exact h.ends_hookless r soon
      · next hook => exact Bool.eq_false_iff.2 hook
  | cleared | noted =>
    dsimp only at soon
    split at soon <;> exact h.ends_hookless r (by simpa using soon)
  | _ => exact h.ends_hookless r (by simpa using soon)

/-- Who is about to sweep is a call. -/
theorem Move.sweep_lt (attended : c.Attended) {n : Nat} (soon : .sweep n ∈ c'.jobs) : n < c'.calls := by
  rcases m.sweep_scheduled soon with before | ⟨w, waits, -⟩
  · exact Nat.lt_of_lt_of_le (h.sweep_lt n before) m.calls_le
  · exact (m.attended attended).waiting_lt n w waits

end

/-- **Every move leaves behind what each party waits for.** -/
theorem Move.live (m : Move c a c' es) (sound : c.Sound) (attended : c.Attended) (h : c.LiveDuring a) : c'.Live where
  ready_sweeps _ _ waits ready := .inl (m.ready_sweeps h waits ready)
  sweeps_ready _ _ soon waits := m.sweeps_ready h (soon.resolve_right (by simp)) waits
  awaited_under _ _ _ waits here := m.awaited_under sound h waits here
  over_concludes _ _ sweeping ended := .inl (m.over_concludes h sweeping ended)
  open_owned _ _ _ sweeping waits := m.open_owned sound h sweeping waits
  waits_owned _ _ under waits := m.waits_owned sound h under waits
  finished_answers _ _ _ under ended := .inl (m.finished_answers h under ended)
  hookless_ends _ _ hook owned := .inl (m.hookless_ends h (m.disposes ▸ hook) owned)
  ends_hookless _ soon := m.disposes.trans (m.ends_hookless h soon)
  sweep_lt _ soon := m.sweep_lt h attended soon

/-! ## Orderly caches -/

/-- **All is well with a cache**, while an action is done. -/
structure OrderlyDuring (c : ClientCache ρ κ ε) (a : Action ρ κ ε) : Prop where
  /-- Its numbers and references make sense. -/
  sound : c.Sound
  /-- Its calls are attended by one party at most. -/
  attended : c.Attended
  /-- What each party waits for is there. -/
  live : c.LiveDuring a

/-- **All is well with a cache.** -/
abbrev Orderly (c : ClientCache ρ κ ε) : Prop := c.OrderlyDuring .rest

omit [DecidableEq κ] in
/-- All is well with the empty cache. -/
theorem orderly_empty (disposes : Bool) : Orderly (.empty disposes : ClientCache ρ κ ε) :=
  ⟨sound_empty disposes, attended_empty disposes, live_empty disposes⟩

omit [DecidableEq κ] in
/-- All is well with a cache when an input acts on it. -/
theorem Orderly.occasion (h : c.Orderly) (i : Input ρ κ ε) :
    (c.occasion i).1.OrderlyDuring (c.occasion i).2 := by
  refine ⟨h.sound.occasion i, ?_, Live.occasion h.live i⟩
  obtain ⟨jobs, same⟩ := c.occasion_fst i
  rw [same]
  exact h.attended.withJobs jobs

/-- All is well after a move. -/
theorem Move.orderly (m : Move c a c' es) (h : c.OrderlyDuring a) : c'.Orderly :=
  ⟨m.sound h.sound, m.attended h.attended, m.live h.sound h.attended h.live⟩

/-- All is well after a step. -/
theorem Orderly.step (h : c.Orderly) (i : Input ρ κ ε) : (c.step i).1.Orderly :=
  (step_move h.sound i).orderly (h.occasion i)

/-- **All is well after every run.** -/
theorem Orderly.after (h : c.Orderly) (inputs : List (Input ρ κ ε)) : (c.after inputs).Orderly :=
  Run.after_induction _ h (fun _ i h => h.step i) inputs

/-- What is kept by every move where all is well and does not depend on the continuations is kept by every
run of a cache with which all is well. -/
theorem Orderly.after_keeps {P : ClientCache ρ κ ε → Prop} (jobs : ∀ c l, P c → P { c with jobs := l })
    (moves : ∀ c a c' es, c.OrderlyDuring a → Move c a c' es → P c → P c') (h : c.Orderly) (hP : P c)
    (inputs : List (Input ρ κ ε)) : P (c.after inputs) := by
  refine (Run.after_induction (P := fun c : ClientCache ρ κ ε => c.Orderly ∧ P c) _ ⟨h, hP⟩
    (fun c i h => ⟨h.1.step i, moves _ _ _ _ (h.1.occasion i) (step_move h.1.sound i) ?_⟩) inputs).2
  obtain ⟨l, same⟩ := c.occasion_fst i
  rw [same]
  exact jobs c l h.2

/-- All is well in every run of the empty cache throughout. -/
theorem orderly_after (disposes : Bool) (inputs : List (Input ρ κ ε)) :
    ((empty disposes).after inputs).Orderly :=
  (orderly_empty disposes).after inputs

/-! ## Nobody waits in vain -/

/-- What a creation waits for outside the cache: a release, or its create call. -/
def AwaitsOutside (c : ClientCache ρ κ ε) (g : Nat) : Prop :=
  (∃ r, c.owners.get? r = some (.creation g)) ∨
    ∃ cr, c.creations.get? g = some cr ∧ cr.stage = .connecting

omit [DecidableEq κ] in
/-- With no continuation left to run, every creation waits for the surroundings. -/
theorem Live.creation_unstuck (h : c.Live) (still : c.jobs = []) {g : Nat} {cr : Creation ρ κ ε}
    (under : c.creations.get? g = some cr) : c.AwaitsOutside g := by
  cases stage : cr.stage with
  | releasing => exact .inl (h.waits_owned g cr under (.inl stage))
  | connecting => exact .inr ⟨cr, under, stage⟩
  | replacing x => exact .inl (h.waits_owned g cr under (.inr ⟨x, stage⟩))
  | finished outcome =>
    have soon := h.finished_answers g cr outcome under stage
    simp [still] at soon

omit [DecidableEq κ] in
/-- With no continuation left to run, a clear call waits for a flight that waits for the surroundings. -/
theorem Live.waiting_unstuck (h : c.Live) (still : c.jobs = []) {n : Nat} {w : Waiting}
    (waits : c.waiting.get? n = some w) : ∃ g ∈ w.awaited, c.AwaitsOutside g := by
  cases awaited : w.awaited with
  | nil =>
    have soon := h.ready_sweeps n w waits awaited
    simp [still] at soon
  | cons g rest =>
    have here : g ∈ w.awaited := awaited ▸ List.mem_cons_self
    obtain ⟨cr, under⟩ := Option.ne_none_iff_exists'.1 (h.awaited_under n w g waits here)
    exact ⟨g, List.mem_cons_self, h.creation_unstuck still under⟩

omit [DecidableEq κ] in
/-- With no continuation left to run, a sweep waits for one of its releases. -/
theorem Live.sweep_unstuck (h : c.Live) (still : c.jobs = []) {n : Nat} {s : Sweep κ ε}
    (sweeping : c.sweeps.get? n = some s) : ∃ r, c.owners.get? r = some (.sweep n) := by
  by_contra none
  -- with none of its releases outstanding, the sweep would be over
  have ended : s.isOver = true := by
    refine List.all_eq_true.2 fun e here => ?_
    obtain ⟨r, result⟩ := e
    cases result with
    | none => exact absurd ⟨r, h.open_owned n s r sweeping here⟩ none
    | some result => rfl
  have soon := h.over_concludes n s sweeping ended
  simp [still] at soon

end ServiceAccess.ClientCache

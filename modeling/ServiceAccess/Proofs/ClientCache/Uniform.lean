import ServiceAccess.Proofs.ClientCache.Failing

/-! # Caches with one fingerprint

As long as the credentials do not change, every call for a client comes with the same fingerprint. Then no client is set
aside, no creation waits for a release, and the creations of a cache are the flights of their keys.

* **`outcome?`**: what a creation has come to, until its callers have been answered. By `ended_of_outcome` this is
  the result of its create call.
* **`Uniform`**: a cache with one fingerprint. Every run of calls with one leaves such a cache (`uniform_after`).
* **`Move.entry_stays`**, **`Move.absent_stays`**: as long as the callers of a creation have not been answered, its
  client goes only in an eviction for other credentials, and none takes its place. -/

namespace ServiceAccess.ClientCache

variable {ρ κ ε : Type}

/-! ## Outcomes -/

/-- The outcome of a creation that is over. -/
def Creation.outcome? (cr : Creation ρ κ ε) : Option (Except ε κ) :=
  match cr.stage with
  | .finished outcome => some outcome
  | _ => none

/-- The outcome of a creation that is over and whose callers have not been answered. -/
def outcome? (c : ClientCache ρ κ ε) (g : Nat) : Option (Except ε κ) :=
  (c.creations.get? g).bind Creation.outcome?

variable {c c' : ClientCache ρ κ ε} {key : String}

/-- An outcome is the last stage of a creation. -/
theorem outcome?_eq_some_iff {g : Nat} {outcome : Except ε κ} : c.outcome? g = some outcome ↔
    ∃ cr, c.creations.get? g = some cr ∧ cr.stage = .finished outcome := by
  rw [outcome?, Option.bind_eq_some_iff]
  refine exists_congr fun cr => and_congr_right fun _ => ?_
  rw [Creation.outcome?]
  cases cr.stage <;> simp

/-- A creation that waits for its create call has no outcome. -/
theorem outcome?_of_connecting {g : Nat} {cr : Creation ρ κ ε}
    (under : c.creations.get? g = some cr) (stage : cr.stage = .connecting) : c.outcome? g = none := by
  simp [outcome?, under, Creation.outcome?, stage]

/-! ## One fingerprint -/

/-- **A cache with one fingerprint.** -/
structure Uniform (c : ClientCache ρ κ ε) (fp : String) : Prop where
  /-- Stored clients have the fingerprint. -/
  entry : ∀ key e, c.entries.get? key = some e → e.fingerprint = fp
  /-- A creation is the flight of its key. -/
  listed : ∀ g cr, c.creations.get? g = some cr → c.flights.get? cr.key = some ⟨fp, g⟩
  /-- A creation waits for its create call, with nothing stored under its key, or is over. -/
  stage : ∀ g cr, c.creations.get? g = some cr →
    cr.stage = .connecting ∧ c.entries.get? cr.key = none ∨ ∃ outcome, cr.stage = .finished outcome
  /-- What is stored beside a creation that is over comes from it. -/
  stored : ∀ g cr outcome e, c.creations.get? g = some cr → cr.stage = .finished outcome →
    c.entries.get? cr.key = some e → outcome = .ok e.client ∧ e.generation = g
  /-- No creation waits for a release. -/
  unowned : ∀ r g, c.owners.get? r ≠ some (.creation g)
  /-- No client is set aside. -/
  detached : c.detached = []

/-- The empty cache has any fingerprint. -/
theorem uniform_empty (disposes : Bool) (fp : String) :
    Uniform (.empty disposes : ClientCache ρ κ ε) fp := by
  constructor <;> simp [empty]

section
variable {fp : String} (h : c.Uniform fp) {g : Nat} {cr : Creation ρ κ ε}
include h

/-- Whether a cache has one fingerprint does not depend on the continuations. -/
theorem Uniform.withJobs (jobs : List Job) : Uniform { c with jobs := jobs } fp :=
  ⟨h.entry, h.listed, h.stage, h.stored, h.unowned, h.detached⟩

/-- A flight is a creation with the fingerprint. -/
theorem Uniform.flight (sound : c.Sound) {f : Flight} (flight : c.flights.get? key = some f) :
    f.fingerprint = fp ∧ ∃ cr, c.creations.get? f.generation = some cr ∧ cr.key = key := by
  obtain ⟨cr, under, rfl, -⟩ := sound.flight_creation key f flight
  have same := Option.some.inj (flight.symm.trans (h.listed _ cr under))
  exact ⟨congrArg Flight.fingerprint same, cr, under, rfl⟩

/-- A creation has the fingerprint. -/
theorem Uniform.fingerprint (sound : c.Sound) (under : c.creations.get? g = some cr) : cr.fingerprint = fp := by
  obtain ⟨cr₀, under₀, -, same⟩ := sound.flight_creation cr.key _ (h.listed g cr under)
  obtain rfl := Option.some.inj (under.symm.trans under₀)
  exact same

/-- Two creations for one key are the same. -/
theorem Uniform.generation_eq {g' : Nat} {cr' : Creation ρ κ ε} (under : c.creations.get? g = some cr)
    (under' : c.creations.get? g' = some cr') (same : cr.key = cr'.key) : g = g' := by
  have flight := h.listed g cr under
  rw [same, h.listed g' cr' under'] at flight
  exact (congrArg Flight.generation (Option.some.inj flight)).symm

/-- Nothing is stored beside a creation that waits for its create call. -/
theorem Uniform.absent (under : c.creations.get? g = some cr) (stage : cr.stage = .connecting) :
    c.entries.get? cr.key = none := by
  rcases h.stage g cr under with ⟨-, absent⟩ | ⟨outcome, ended⟩
  · exact absent
  · simp [stage] at ended

/-- In a cache with one fingerprint every creation is the flight of its key. -/
theorem Uniform.all_listed (sound : c.Sound) : c.Listed := by
  intro g cr under _
  rw [h.fingerprint sound under]
  exact h.listed g cr under

end

variable [DecidableEq κ]
variable {a : Action ρ κ ε} {es : List (Effect ρ κ ε)} {fp : String}

/-- The call that starts a creation waits for no release, and makes the create call. -/
theorem Move.starts_uniform {request : ρ} (m : Move c (.acquire key fp request) c' es) (sound : c.Sound)
    (h : c.Uniform fp) {cr' : Creation ρ κ ε} (under : c'.creations.get? (c.generation + 1) = some cr') :
    cr' = ⟨key, fp, request, .connecting, [c.calls]⟩ ∧ .create (c.generation + 1) request ∈ es := by
  have old {cr : Creation ρ κ ε} : c.creations.get? (c.generation + 1) ≠ some cr :=
    fun before => Nat.not_succ_le_self _ (sound.creation_le _ cr before)
  cases m with
  | started =>
    obtain rfl := Option.some.inj ((Table.get?_insert_self ..).symm.trans under)
    exact ⟨rfl, by simp⟩
  | restarted stored stale => exact absurd (h.entry key _ stored) stale
  | joined _ _ under₀ =>
    rw [Table.get?_insert] at under
    split at under
    · next same => exact absurd (same ▸ under₀) old
    · exact absurd under old
  | hit | idle => exact absurd under old

/-- A create call that ends is the end of its creation. -/
theorem Move.finishes_uniform {g : Nat} {result : Except ε κ} (m : Move c (.created g result) c' es)
    (h : c.Uniform fp) {cr : Creation ρ κ ε} (under : c.creations.get? g = some cr)
    (stage : cr.stage = .connecting) :
    c'.creations.get? g = some { cr with stage := .finished result } ∧
      ∀ x, result = .ok x → c'.entries.get? cr.key = some ⟨x, cr.fingerprint, g⟩ := by
  cases m with
  | stored under₀ =>
    obtain rfl := Option.some.inj (under.symm.trans under₀)
    refine ⟨Table.get?_insert_self .., ?_⟩
    rintro x ⟨⟩
    exact Table.get?_insert_self ..
  | failed under₀ =>
    obtain rfl := Option.some.inj (under.symm.trans under₀)
    exact ⟨Table.get?_insert_self .., nofun⟩
  | superseded under₀ _ present | replacing under₀ _ present =>
    -- nothing is stored beside a creation that waits for its create call
    obtain rfl := Option.some.inj (under.symm.trans under₀)
    simp [h.absent under stage] at present
  | idle nothing => exact absurd stage (nothing cr under)

section
variable (m : Move c a c' es) (sound : c.Sound) (h : c.Uniform fp)
  (one : ∀ key f request, a = .acquire key f request → f = fp)
include m sound h one

omit one in
/-- What is stored comes from a creation, and creations have the fingerprint. -/
theorem Move.uniform_entry {key : String} {e : Entry κ} (stored : c'.entries.get? key = some e) :
    e.fingerprint = fp := by
  rcases m.entry_cases stored with before | ⟨cr, under, -, -, same, -⟩
  · exact h.entry key e before
  · rw [← same]
    exact h.fingerprint sound under

/-- A creation starts only for a key without a flight, so that it displaces no other one. -/
theorem Move.uniform_listed {g : Nat} {cr' : Creation ρ κ ε} (under' : c'.creations.get? g = some cr') :
    c'.flights.get? cr'.key = some ⟨fp, g⟩ := by
  rcases m.creation_cases under' with ⟨cr, under, later, -⟩ | ⟨rfl, call, -⟩
  · rw [later.key]
    rcases m.flight_fate (h.listed g cr under) with stays | ⟨f, request, call, other⟩ | gone
    · exact stays
    · exact absurd (one _ _ _ call).symm other
    · simp [under'] at gone
  · obtain rfl := one _ _ _ call
    subst call
    exact m.flight_of_started sound under'

/-- A create call that ends is the end of its creation, and until then nothing is stored. -/
theorem Move.uniform_stage {g : Nat} {cr' : Creation ρ κ ε} (under' : c'.creations.get? g = some cr') :
    cr'.stage = .connecting ∧ c'.entries.get? cr'.key = none ∨ ∃ outcome, cr'.stage = .finished outcome := by
  rcases m.creation_cases under' with ⟨cr, under, later, -⟩ | ⟨rfl, call, -, absent, -⟩
  · rcases h.stage g cr under with ⟨stage, absent⟩ | ⟨outcome, ended⟩
    · by_cases ends : ∃ result, a = .created g result
      · obtain ⟨result, rfl⟩ := ends
        obtain rfl := Option.some.inj ((m.finishes_uniform h under stage).1.symm.trans under')
        exact .inr ⟨result, rfl⟩
      · obtain ⟨cr₁, under₁, stage', -⟩ := m.connecting_stays sound under stage (not_exists.1 ends)
        obtain rfl := Option.some.inj (under₁.symm.trans under')
        refine .inl ⟨stage', Option.eq_none_iff_forall_ne_some.2 fun e stored => ?_⟩
        -- only the end of its own create call stores a client for the key
        rw [later.key] at stored
        rcases m.entry_cases stored with before | ⟨cr₂, under₂, -, key, -, call | replacing, -⟩
        · simp [absent] at before
        · obtain rfl := h.generation_eq under under₂ key.symm
          exact ends ⟨_, call⟩
        · obtain rfl := h.generation_eq under under₂ key.symm
          obtain rfl := Option.some.inj (under.symm.trans under₂)
          simp [stage] at replacing
    · exact .inr ⟨outcome, (m.finished_stays sound under ended under').2.2⟩
  · obtain rfl := one _ _ _ call
    subst call
    refine .inl ⟨?_, absent⟩
    rw [(m.starts_uniform sound h under').1]

/-- A creation that stores a client is the only one for its key. -/
theorem Move.uniform_stored {g : Nat} {cr' : Creation ρ κ ε} {outcome : Except ε κ} {e : Entry κ}
    (under' : c'.creations.get? g = some cr') (ended : cr'.stage = .finished outcome)
    (stored : c'.entries.get? cr'.key = some e) : outcome = .ok e.client ∧ e.generation = g := by
  rcases m.entry_cases stored with before | ⟨cr₀, -, -, key, -, -, finished⟩
  · rcases m.creation_cases under' with ⟨cr, under, later, -⟩ | ⟨-, -, -, absent, -⟩
    · rw [later.key] at before
      rcases h.stage g cr under with ⟨-, absent⟩ | ⟨outcome', ended'⟩
      · simp [absent] at before
      · have still := (m.finished_stays sound under ended' under').2.2
        obtain rfl : outcome = outcome' := by simpa [ended] using still
        exact h.stored g cr outcome e under ended' before
    · simp [stored] at absent
  · have flight := m.uniform_listed sound h one under'
    rw [← key, m.uniform_listed sound h one finished] at flight
    obtain rfl : e.generation = g := congrArg Flight.generation (Option.some.inj flight)
    obtain rfl := Option.some.inj (finished.symm.trans under')
    exact ⟨by simpa using ended.symm, rfl⟩

omit sound in
/-- A release that a creation waits for would be that of a client with other credentials, or of one stored beside the
creation. -/
theorem Move.uniform_unowned (r g : Nat) : c'.owners.get? r ≠ some (.creation g) := by
  intro owned
  cases m with
  | restarted stored stale => exact stale ((h.entry _ _ stored).trans (one _ _ _ rfl).symm)
  | replacing under stage present => simp [h.absent under stage] at present
  | connected owned' | replaced owned' | aborted owned' => exact h.unowned _ _ owned'
  | evicted | swept =>
    rw [get?_sweepOwners] at owned
    split at owned
    · cases owned
    · exact h.unowned r g owned
  | noted | forgotten =>
    rw [Table.get?_erase] at owned
    split at owned
    · cases owned
    · exact h.unowned r g owned
  | _ => exact h.unowned r g owned

omit sound one in
/-- A client is set aside only where another one is stored, and where its creation is. -/
theorem Move.uniform_detached : c'.detached = [] := by
  cases m with
  | superseded under stage present => simp [h.absent under stage] at present
  | evicted | swept => rfl
  | _ => exact h.detached

/-- **Every move that comes with the fingerprint leaves a cache with one.** -/
theorem Move.uniform : c'.Uniform fp where
  entry _ _ stored := m.uniform_entry sound h stored
  listed _ _ under := m.uniform_listed sound h one under
  stage _ _ under := m.uniform_stage sound h one under
  stored _ _ _ _ under ended stored := m.uniform_stored sound h one under ended stored
  unowned := m.uniform_unowned h one
  detached := m.uniform_detached h

end

/-- **Every run of calls with one fingerprint leaves a cache with it.** -/
theorem uniform_after (disposes : Bool) {inputs : List (Input ρ κ ε)}
    (one : ∀ key f request, .acquire key f request ∈ inputs → f = fp) :
    ((empty disposes).after inputs).Uniform fp := by
  induction inputs using List.reverseRecOn with
  | nil => exact uniform_empty disposes fp
  | append_singleton l i ih =>
    have uniform := ih fun key f request here => one key f request (List.mem_append_left _ here)
    obtain ⟨jobs, move⟩ := exists_move (sound_after disposes l) i
    rw [after_concat]
    refine move.uniform ((sound_after disposes l).withJobs jobs) (uniform.withJobs jobs) ?_
    intro key f request call
    obtain rfl : i = .acquire key f request := eq_of_occasion call rfl
    exact one key f request (by simp)

theorem uniform_before (disposes : Bool) {l inputs : List (Input ρ κ ε)}
    (one : ∀ key f request, .acquire key f request ∈ inputs → f = fp) (part : l <+: inputs) :
    ((empty disposes).after l).Uniform fp :=
  uniform_after disposes fun key f request here => one key f request (part.subset here)

/-! ## Outcomes of create calls -/

/-- An outcome was there before, or it is the result of the create call that a creation has waited for. -/
theorem Move.outcome_cases (m : Move c a c' es) (sound : c.Sound) (h : c.Uniform fp) {g : Nat}
    {outcome : Except ε κ} (ended : c'.outcome? g = some outcome) : c.outcome? g = some outcome ∨
      (a = .created g outcome ∧ ∃ cr, c.creations.get? g = some cr ∧ cr.stage = .connecting) := by
  rw [outcome?_eq_some_iff] at ended ⊢
  obtain ⟨cr', under', ended⟩ := ended
  rcases m.creation_cases under' with ⟨cr, under, -⟩ | ⟨-, -, start, -⟩
  · rcases h.stage g cr under with ⟨stage, -⟩ | ⟨outcome', ended'⟩
    · by_cases ends : ∃ result, a = .created g result
      · obtain ⟨result, rfl⟩ := ends
        obtain rfl := Option.some.inj ((m.finishes_uniform h under stage).1.symm.trans under')
        obtain rfl : result = outcome := by simpa using ended
        exact .inr ⟨rfl, cr, under, stage⟩
      · obtain ⟨cr₁, under₁, stage', -⟩ := m.connecting_stays sound under stage (not_exists.1 ends)
        obtain rfl := Option.some.inj (under₁.symm.trans under')
        simp [stage'] at ended
    · have still := (m.finished_stays sound under ended' under').2.2
      exact .inl ⟨cr, under, ended'.trans (still.symm.trans ended)⟩
  · simp [ended] at start

/-- **An outcome is the result of a create call** that has ended in the run. -/
theorem ended_of_outcome (disposes : Bool) {inputs : List (Input ρ κ ε)}
    (one : ∀ key f request, .acquire key f request ∈ inputs → f = fp) {g : Nat} {outcome : Except ε κ}
    (ended : ((empty disposes).after inputs).outcome? g = some outcome) :
    (empty disposes).Ended inputs g outcome := by
  induction inputs using List.reverseRecOn with
  | nil => exact absurd ended (by simp [outcome?, empty])
  | append_singleton l i ih =>
    have uniform := uniform_before disposes one (List.prefix_append l [i])
    have sound := sound_after (ρ := ρ) (κ := κ) (ε := ε) disposes l
    obtain ⟨jobs, move⟩ := exists_move sound i
    rw [after_concat] at ended
    rcases move.outcome_cases (sound.withJobs jobs) (uniform.withJobs jobs) ended with past | ⟨call, cr, under, stage⟩
    · have before := ih fun key f request here => one key f request (List.mem_append_left _ here)
      exact (before past).mono (List.prefix_append ..)
    · obtain rfl : i = .created g outcome := eq_of_occasion call rfl
      exact ⟨l, cr, List.prefix_refl _, under, stage⟩

/-! ## Clients whose creation is over -/

section
variable {g : Nat} {cr : Creation ρ κ ε} {outcome : Except ε κ}

/-- **Only an eviction for other credentials takes the client of a creation** whose callers have not been answered. A
clear call would still wait for the creation. -/
theorem Move.entry_stays (m : Move c a c' es) (live : c.LiveDuring a) (h : c.Uniform fp)
    (horizon : ∀ n w, c.waiting.get? n = some w → c.Horizon n w.horizon)
    (one : ∀ key f request, a = .acquire key f request → f = fp) (under : c.creations.get? g = some cr)
    (ended : cr.stage = .finished outcome) (kept : ∀ f, a = .evictStale f → f = fp) {e : Entry κ}
    (stored : c.entries.get? cr.key = some e) : c'.entries.get? cr.key = some e := by
  cases m with
  | restarted stored' stale => exact absurd ((h.entry _ _ stored').trans (one _ _ _ rfl).symm) stale
  | evicted =>
    have same := (h.entry _ e stored).trans (kept _ rfl).symm
    simp [Table.get?_filter, stored, same]
  | stored under₀ stage₀ absent =>
    rw [Table.get?_insert]
    split
    · next same => simp [← same, stored] at absent
    · exact stored
  | replaced owned => exact absurd owned (h.unowned _ _)
  | @swept n w _ waits =>
    have young : ¬ e.generation ≤ w.horizon := by
      intro old
      obtain ⟨-, rfl⟩ := h.stored g cr outcome e under ended stored
      obtain ⟨w', waits', awaited⟩ := (horizon n w waits).awaits cr.key _ (h.listed _ cr under) old
      simp [live.sweeps_ready n w' (.inr rfl) waits'] at awaited
    simp [Table.get?_filter, stored, young]
  | _ => exact stored

/-- An eviction for other credentials leaves nothing. -/
theorem Move.evicts_uniform {f : String} (m : Move c (.evictStale f) c' es) (h : c.Uniform fp) (other : f ≠ fp)
    (key : String) : c'.entries.get? key = none := by
  cases m with
  | evicted =>
    rw [Table.get?_filter, Option.filter_eq_none_iff]
    intro e stored
    simpa [h.entry key e stored] using other.symm
  | idle nothing => exact nothing.elim

/-- **No other client takes its place.** -/
theorem Move.absent_stays (m : Move c a c' es) (h : c.Uniform fp) (under : c.creations.get? g = some cr)
    (ended : cr.stage = .finished outcome) (absent : c.entries.get? cr.key = none) :
    c'.entries.get? cr.key = none := by
  refine Option.eq_none_iff_forall_ne_some.2 fun e stored => ?_
  rcases m.entry_cases stored with before | ⟨cr₀, under₀, flying, key, -⟩
  · simp [absent] at before
  · obtain rfl := h.generation_eq under under₀ key.symm
    obtain rfl := Option.some.inj (under.symm.trans under₀)
    exact flying outcome ended

end

end ServiceAccess.ClientCache

import ServiceAccess.Proofs.ClientCache.Clearing

/-! # Draining a client cache

A clear call can always be brought to its end without the help of a creation that it does not wait for.
Together with `Listed.clears` this says exactly when a clear call clears.

* **`weight`**: what is left to do in a cache. Every continuation, every release that ends and every create
  call that fails makes it less (`Move.weight_le`).
* **`drained`**: a clear call is answered in some run that leaves a given lingering creation alone.
* **`clears_iff`**: a clear call clears exactly when every creation is listed. -/

namespace ServiceAccess.ClientCache

variable {ρ κ ε : Type}

/-! ## What is left to do -/

/-- What is left to do in a stage of a creation. -/
def Stage.weight : Stage κ ε → Nat
  | .releasing | .connecting => 2
  | .replacing _ => 3
  | .finished _ => 0

/-- What a creation has left to do. -/
def Creation.weight (cr : Creation ρ κ ε) : Nat := cr.stage.weight

/-- What a clear call has left to do before it sweeps. -/
def Waiting.weight (w : Waiting) : Nat := if w.awaited = [] then 1 else 2

/-- What is left to do in a cache: a stored client can become a release with its continuation. -/
def weight (c : ClientCache ρ κ ε) : Nat :=
  c.jobs.length + c.owners.total (fun _ => 2) + c.entries.total (fun _ => 3) + 3 * c.detached.length
    + c.creations.total Creation.weight + c.waiting.total Waiting.weight

/-- An action brings something to its end, and no new client. -/
def Action.Settles : Action ρ κ ε → Prop
  | .released _ (.ok ()) | .created _ (.error _) | .answer _ | .sweep _ | .conclude _ | .rest => True
  | _ => False

private theorem total_foldl_insert (l : List Nat) (t : Table Nat Owner) (o : Owner) :
    (l.foldl (fun t i => t.insert i o) t).total (fun _ => 2) ≤ t.total (fun _ => 2) + 2 * l.length := by
  induction l generalizing t with
  | nil => exact Nat.le_refl _
  | cons i l ih =>
    have rest := ih (t.insert i o)
    rw [Table.total_insert] at rest
    have := t.total_erase_le (fun _ => 2) i
    rw [List.foldl_cons, List.length_cons]
    omega

/-- The releases of a sweep weigh two each. -/
theorem total_sweepOwners (c : ClientCache ρ κ ε) (call n : Nat) :
    (c.sweepOwners call n).total (fun _ => 2) ≤ c.owners.total (fun _ => 2) + 2 * n := by
  rw [sweepOwners]
  simpa using total_foldl_insert (List.range' c.releases n) c.owners (.sweep call)

/-- Without a dispose hook, the releases of a sweep bring a continuation each. -/
theorem length_sweepJobs (c : ClientCache ρ κ ε) (n : Nat) :
    (c.sweepJobs n).length ≤ c.jobs.length + n := by
  rw [sweepJobs]
  split <;> simp

/-- A clear call that hears of the end of a creation has less to do exactly when it waited for nothing
else. -/
theorem Waiting.weight_notified (w : Waiting) (g : Nat) :
    Waiting.weight { w with awaited := w.awaited.filter fun h => !decide (h = g) }
      + (if w.awaited.contains g && w.awaited.all fun h => h = g then 1 else 0) = w.weight := by
  obtain ⟨horizon, awaited⟩ := w
  simp only [weight]
  by_cases none : awaited = []
  · simp [none]
  -- it waits for this creation only, or goes on waiting for another
  by_cases only : ∀ h ∈ awaited, h = g
  · obtain ⟨h, here⟩ := List.exists_mem_of_ne_nil _ none
    obtain rfl := only h here
    have gone : awaited.filter (fun k => !decide (k = h)) = [] := by simpa using only
    have ready : (awaited.contains h && awaited.all fun k => k = h) = true := by
      simpa [here] using only
    rw [gone, ready, if_neg none]
    rfl
  · have stays : awaited.filter (fun h => !decide (h = g)) ≠ [] := by simpa using only
    have unready : (awaited.contains g && awaited.all fun h => h = g) = false := by
      simpa using fun _ => by simpa using only
    rw [if_neg stays, unready, if_neg none]
    rfl

/-- The clear calls that wait for a creation and nothing else become continuations when it is answered. -/
theorem total_notified (t : Table Nat Waiting) (g : Nat) :
    (t.map fun _ w => { w with awaited := w.awaited.filter fun h => !decide (h = g) }).total
        Waiting.weight
      + (t.filter fun _ w => w.awaited.contains g && w.awaited.all fun h => h = g).keys.length
      = t.total Waiting.weight := by
  simp only [Table.total, Table.values, Table.map, Table.keys, Table.entries_filter, List.map_map,
    List.length_map, Function.comp_def]
  generalize t.entries = l
  induction l with
  | nil => rfl
  | cons e l ih =>
    have here := e.2.weight_notified g
    simp only [List.map_cons, List.sum_cons, List.filter_cons]
    split at here <;> rename_i ready
    · rw [if_pos ready, List.length_cons]
      omega
    · rw [if_neg ready]
      omega

variable [DecidableEq κ]
variable {c c' : ClientCache ρ κ ε} {a : Action ρ κ ε} {es : List (Effect ρ κ ε)}

/-- **Settling leaves less to do**, when the continuation of the action is counted. -/
theorem Move.weight_le (m : Move c a c' es) (live : c.LiveDuring a) (settles : a.Settles) :
    c'.weight ≤ c.weight ∧
      ((∃ r result o, a = .released r result ∧ c.owners.get? r = some o) ∨
        (∃ g result cr, a = .created g result ∧ c.creations.get? g = some cr ∧ cr.stage = .connecting) →
      c'.weight < c.weight) := by
  cases m with
  -- the move ends a create call or a release: what it leads to weighs less
  | @failed g failure cr under stage =>
    have swap := Table.total_replace Creation.weight under { cr with stage := .finished (.error failure) }
    simp only [Creation.weight, stage, Stage.weight] at swap
    simp only [weight, List.length_append, List.length_singleton]
    omega
  | @connected r g cr owned under stage =>
    have swap := Table.total_replace Creation.weight under { cr with stage := .connecting }
    simp only [Creation.weight, stage, Stage.weight] at swap
    have ended := Table.total_erase (fun _ => 2) owned
    simp only [weight]
    omega
  | @replaced r g x cr owned under stage =>
    have swap := Table.total_replace Creation.weight under { cr with stage := .finished (.ok x) }
    simp only [Creation.weight, stage, Stage.weight] at swap
    have ended := Table.total_erase (fun _ => 2) owned
    have stored := Table.total_insert (fun _ => 3) c.entries cr.key ⟨x, cr.fingerprint, g⟩
    have room := c.entries.total_erase_le (fun _ => 3) cr.key
    simp only [weight, List.length_append, List.length_singleton]
    omega
  | @noted r call result s owned sweeping =>
    have ended := Table.total_erase (fun _ => 2) owned
    simp only [weight]
    split
    · rw [List.length_append, List.length_singleton]
      omega
    · omega
  | forgotten owned ended =>
    have ended := Table.total_erase (fun _ => 2) owned
    simp only [weight]
    omega
  -- the clear calls that become ready pay for their continuations
  | @answered g outcome cr under stage =>
    have gone := Table.total_erase Creation.weight under
    have notified := total_notified c.waiting g
    have idle : ¬ ((∃ r result o, (.answer g : Action ρ κ ε) = .released r result ∧
        c.owners.get? r = some o) ∨ ∃ h result cr, (.answer g : Action ρ κ ε) = .created h result ∧
        c.creations.get? h = some cr ∧ cr.stage = .connecting) := by simp
    simp only [weight, List.length_append, List.length_map]
    exact ⟨by omega, fun h => absurd h idle⟩
  -- every client pays for its release, and the call for the end of the sweep
  | @swept call w clients waits swept =>
    have ready := live.sweeps_ready call w (.inr rfl) waits
    have gone := Table.total_erase Waiting.weight waits
    have before : w.weight = 1 := by simp [Waiting.weight, ready]
    have split := Table.total_filter (fun _ => 3) c.entries fun _ e => e.generation ≤ w.horizon
    have owners := c.total_sweepOwners call clients.length
    have jobs := c.length_sweepJobs clients.length
    have count : clients.length = c.detached.length
        + (c.entries.filter fun _ e => e.generation ≤ w.horizon).values.length := by
      rw [swept, List.length_append, List.length_map]
    have each : (c.entries.filter fun _ e => e.generation ≤ w.horizon).total (fun _ => 3)
        = 3 * (c.entries.filter fun _ e => e.generation ≤ w.horizon).values.length := by
      simp [Table.total, Nat.mul_comm]
    have list : (if clients.isEmpty then c.jobs ++ [.conclude call]
        else c.sweepJobs clients.length).length ≤ c.jobs.length + clients.length + 1 := by
      split
      · simp
      · omega
    refine ⟨?_, by simp⟩
    simp only [weight, List.length_nil]
    omega
  | concluded sweeping => exact ⟨Nat.le_refl _, by simp⟩
  | idle nothing =>
    refine ⟨Nat.le_refl _, ?_⟩
    rintro (⟨r, result, o, rfl, owned⟩ | ⟨g, result, cr, rfl, under, stage⟩)
    · simp [nothing] at owned
    · exact absurd stage (nothing cr under)
  | _ => exact settles.elim

/-! ## Leaving a creation alone -/

/-- A creation lingers in a cache. -/
def Lingering (c : ClientCache ρ κ ε) (g : Nat) : Prop :=
  ∃ cr, c.creations.get? g = some cr ∧ c.Lingers cr

/-- A clear call is on its way, and does not wait for a creation. -/
def Ignores (c : ClientCache ρ κ ε) (n g : Nat) : Prop :=
  (∃ w, c.waiting.get? n = some w ∧ g ∉ w.awaited) ∨ ∃ s, c.sweeps.get? n = some s

/-- An action does nothing for a creation but to end its release where there is no dispose hook. -/
def Spares (c : ClientCache ρ κ ε) (a : Action ρ κ ε) (g : Nat) : Prop :=
  (∀ result, a ≠ .created g result) ∧
    ∀ r result, a = .released r result → c.owners.get? r = some (.creation g) →
      c.disposes = false ∧ result = .ok ()

omit [DecidableEq κ] in
/-- A creation that lingers is in flight. -/
theorem Lingers.inFlight {cr : Creation ρ κ ε} (h : c.Lingers cr) : cr.InFlight := by
  intro outcome ended
  simp [Lingers, ended] at h

/-- A lingering creation goes on lingering when it is left alone. -/
theorem Move.lingering (m : Move c a c' es) (sound : c.Sound) {g : Nat} (h : c.Lingering g)
    (spares : c.Spares a g) : c'.Lingering g := by
  obtain ⟨cr, under, lingers⟩ := h
  obtain ⟨uncreated, unreleased⟩ := spares
  cases m.creation_fate sound under with
  | stays under' _ same => exact ⟨_, under', by rwa [Lingers, same, m.disposes]⟩
  | returns ends => exact absurd ends (uncreated _)
  | connects _ _ _ under' _ next => exact ⟨_, under', .inr (.inl next)⟩
  | finishes ends owned waits =>
    -- without a dispose hook its release does not fail, and behind its create call it has not lingered
    obtain ⟨hook, rfl⟩ := unreleased _ _ ends owned
    rcases waits with ⟨x, stage⟩ | ⟨-, failed⟩
    · simp [Lingers, stage, hook] at lingers
    · exact absurd rfl failed
  | answered _ ended => exact absurd ended (lingers.inFlight _)

/-- A clear call stays on its way without a creation that it does not wait for, or it is answered. -/
theorem Move.ignores (m : Move c a c' es) {n g : Nat} (fresh : n < c.calls) (h : c.Ignores n g) :
    c'.Ignores n g ∨ ∃ o, .settled n o ∈ es := by
  rcases h with ⟨w, waits, other⟩ | ⟨s, sweeping⟩
  · rcases m.waiting_cases waits fresh with ⟨w', waits', -, fewer, -⟩ | ⟨-, sweeps, -⟩
    · exact .inl (.inl ⟨w', waits', fun here => other (fewer g here)⟩)
    · exact .inl (.inr sweeps)
  · cases m with
    | @concluded call s₀ sweeping₀ =>
      by_cases same : n = call
      · subst same
        exact .inr ⟨s₀.outcome, List.mem_singleton_self _⟩
      · refine .inl (.inr ⟨s, ?_⟩)
        rw [Table.get?_erase, if_neg same, sweeping]
    | evicted | swept | noted =>
      refine .inl (.inr ?_)
      simp only [Table.get?_insert]
      split
      · exact ⟨_, rfl⟩
      · exact ⟨s, sweeping⟩
    | _ => exact .inl (.inr ⟨s, sweeping⟩)

/-! ## Bringing a clear call to its end -/

/-- **There is something to settle.** While a clear call is on its way, some input settles something, has
less to do after it, and leaves alone a creation that the call does not wait for. -/
theorem Orderly.next [Inhabited ε] (h : c.Orderly) {n g : Nat} (ignores : c.Ignores n g) :
    ∃ i, (c.step i).1.weight < c.weight ∧ (c.occasion i).1.Spares (c.occasion i).2 g := by
  have live : c.Live := h.live
  cases list : c.jobs with
  | cons job jobs =>
    -- the oldest continuation runs
    have move := step_move h.sound .resume
    have acting := h.occasion .resume
    simp only [ClientCache.occasion, list] at move acting
    have settles : job.action.Settles (ρ := ρ) (κ := κ) (ε := ε) := by
      cases job <;> trivial
    have lighter : weight { c with jobs := jobs } < c.weight := by
      simp only [weight, list, List.length_cons]
      omega
    refine ⟨.resume, Nat.lt_of_le_of_lt (move.weight_le acting.live settles).1 lighter, ?_⟩
    simp only [ClientCache.occasion, list]
    refine ⟨fun result => ?_, fun r result ends _ => ?_⟩
    · cases job <;> simp [Job.action]
    · cases job with
      | release r₀ =>
        obtain ⟨rfl, rfl⟩ := Action.released.inj ends
        exact ⟨h.live.ends_hookless r₀ (by simp [list]), rfl⟩
      | _ => simp [Job.action] at ends
  | nil =>
    -- the list is empty: the call waits for a release or a create call, and not for one of `g`
    have release : ∀ r o, c.owners.get? r = some o → o ≠ .creation g →
        ∃ i, (c.step i).1.weight < c.weight ∧ (c.occasion i).1.Spares (c.occasion i).2 g := by
      intro r o owned other
      have move := step_move h.sound (.released r (.ok ()))
      refine ⟨.released r (.ok ()), ?_, by simp [ClientCache.occasion], fun r' result same own => ?_⟩
      · exact (move.weight_le (h.occasion _).live trivial).2 (.inl ⟨r, _, o, rfl, owned⟩)
      · obtain ⟨rfl, -⟩ := Action.released.inj same
        exact absurd (Option.some.inj (owned.symm.trans own)) other
    rcases ignores with ⟨w, waits, apart⟩ | ⟨s, sweeping⟩
    · rcases live.waiting_unstuck list waits with ⟨k, awaited, ⟨r, owned⟩ | ⟨cr₁, under₁, stage₁⟩⟩
      · exact release r _ owned fun same => apart (Owner.creation.inj same ▸ awaited)
      · have move := step_move h.sound (.created k (.error default))
        refine ⟨.created k (.error default), ?_, fun result same => ?_, by simp [ClientCache.occasion]⟩
        · exact (move.weight_le (h.occasion _).live trivial).2 (.inr ⟨k, _, cr₁, rfl, under₁, stage₁⟩)
        · exact apart ((Action.created.inj same).1 ▸ awaited)
    · obtain ⟨r, owned⟩ := live.sweep_unstuck list sweeping
      exact release r _ owned (by simp)

/-- **A clear call can be brought to its end** while a creation that it does not wait for lingers on. -/
theorem drained [Inhabited ε] {n g : Nat} (h : c.Orderly) (fresh : n < c.calls)
    (lingering : c.Lingering g) (ignores : c.Ignores n g) :
    ∃ inputs o, .settled n o ∈ c.asked inputs ∧ (c.after inputs).Lingering g := by
  induction k : c.weight using Nat.strongRecOn generalizing c with
  | ind k ih =>
    -- the induction is on what is left to do
    obtain ⟨i, less, spares⟩ := h.next ignores
    have move := step_move h.sound i
    obtain ⟨jobs, same⟩ := c.occasion_fst i
    have lingering' : (c.step i).1.Lingering g := by
      refine move.lingering (h.occasion i).sound ?_ spares
      rw [same]
      exact lingering
    have fresh' : n < (c.occasion i).1.calls := by
      rw [same]
      exact fresh
    have ignores' : (c.occasion i).1.Ignores n g := by
      rw [same]
      exact ignores
    rcases move.ignores fresh' ignores' with on | ⟨o, answered⟩
    · obtain ⟨inputs, o, answered, still⟩ := ih _ (k ▸ less) (h.step i)
        (Nat.lt_of_lt_of_le fresh' move.calls_le) lingering' on rfl
      exact ⟨i :: inputs, o, List.mem_append_right _ answered, still⟩
    · exact ⟨[i], o, by simpa [asked, trace] using answered, lingering'⟩

/-- **Clearing, exactly.** In every reachable state, a clear call clears exactly when each creation whose
end depends on the surroundings is the flight of its key. -/
theorem clears_iff [Inhabited ε] (disposes : Bool) (inputs : List (Input ρ κ ε)) :
    ((empty disposes).after inputs).Clears ↔ ((empty disposes).after inputs).Listed := by
  have orderly := orderly_after (ρ := ρ) (κ := κ) (ε := ε) disposes inputs
  generalize (empty disposes).after inputs = c at orderly
  refine ⟨fun clears g cr under lingers => ?_, fun listed => listed.clears orderly⟩
  by_contra unlisted
  have lingering : (c.step .clear).1.Lingering g := by
    rw [step, clear_eq]
    exact ⟨cr, under, lingers⟩
  -- the flights of the moment are not this creation, so the call does not wait for it
  have ignores : (c.step .clear).1.Ignores c.calls g := by
    rw [step, clear_eq]
    refine .inl ⟨_, Table.get?_insert_self .., fun here => ?_⟩
    obtain ⟨f, flying, rfl⟩ := List.mem_map.1 here
    obtain ⟨key, flight⟩ := Table.mem_values_iff.1 flying
    obtain ⟨cr₁, under₁, rfl, same⟩ := orderly.sound.flight_creation key f flight
    obtain rfl := Option.some.inj (under.symm.trans under₁)
    exact unlisted (same ▸ flight)
  have counted : c.calls < (c.step .clear).1.calls := by
    rw [step, clear_eq]
    exact Nat.lt_succ_self _
  obtain ⟨l, o, answered, cr', under', lingers'⟩ :=
    drained (orderly.step .clear) counted lingering ignores
  exact (clears l o answered).ended g cr' under' (orderly.sound.creation_le g cr under)
    lingers'.inFlight

/-- A clear call is answered while the first of two creations for one key is still in flight, because the
second one has taken its place as the flight of the key; the client of the first one is stored later. -/
theorem not_clears_overtaken :
    ¬ ((empty true).after [.acquire "key" "old" (), .acquire "key" "new" (), .created 2 (.ok 20),
        .resume] : ClientCache Unit Nat Unit).Clears ∧
      ((empty true).after [.acquire "key" "old" (), .acquire "key" "new" (), .created 2 (.ok 20),
        .resume, .clear, .resume, .released 0 (.ok ()), .resume, .created 1 (.ok 10)] :
        ClientCache Unit Nat Unit).keys = ["key"] := by
  refine ⟨fun clears => ?_, rfl⟩
  have rid := clears [.resume, .released 0 (.ok ()), .resume] (.ok .done)
    (List.mem_of_getElem? (i := 2) rfl)
  exact rid.ended 1 ⟨"key", "old", (), .connecting, [0]⟩ rfl (by decide) (by simp [Creation.InFlight])

end ServiceAccess.ClientCache

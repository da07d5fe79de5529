import ServiceAccess.Proofs.ClientCache.Progress

/-! # Clearing a client cache

A clear call is meant to end only when every creation started before it has ended, with nothing of theirs
stored then or later. It waits for the flights of its moment, one for each key, so that a creation which is
no longer the flight of its key can outlast it.

* **`Clears`**: what a clear call is meant to do, however the run goes on.
* **`Listed`**: every creation whose end depends on the surroundings is the flight of its key.
* **`Listed.clears`**: a clear call made while all creations are listed does what it is meant to. -/

namespace ServiceAccess.ClientCache

variable {ρ κ ε : Type}

/-- The end of a creation depends on the surroundings. A creation that replaces a client depends on them
only where there is a dispose hook; else it ends by itself. -/
def Lingers (c : ClientCache ρ κ ε) (cr : Creation ρ κ ε) : Prop :=
  cr.stage = .releasing ∨ cr.stage = .connecting ∨ (c.disposes = true ∧ ∃ x, cr.stage = .replacing x)

/-- **Every creation that lingers is the flight of its key.** -/
def Listed (c : ClientCache ρ κ ε) : Prop :=
  ∀ g cr, c.creations.get? g = some cr → c.Lingers cr →
    c.flights.get? cr.key = some ⟨cr.fingerprint, g⟩

/-- **Nothing is left of old creations**: they have ended, and no client of theirs is stored. -/
structure Rid (c : ClientCache ρ κ ε) (horizon : Nat) : Prop where
  /-- No old creation is in flight. -/
  ended : ∀ g cr, c.creations.get? g = some cr → g ≤ horizon → ¬ cr.InFlight
  /-- No client of an old creation is stored. -/
  unstored : ∀ key e, c.entries.get? key = some e → horizon < e.generation

variable [DecidableEq κ]

/-- **A clear call clears**: however the run goes on, from the moment when the call is answered nothing is
left of the creations that were started before it was made. -/
def Clears (c : ClientCache ρ κ ε) : Prop :=
  ∀ inputs outcome, .settled c.calls outcome ∈ (c.step .clear).1.asked inputs →
    ((c.step .clear).1.after inputs).Rid c.generation

/-! ## Waiting for the end -/

variable {c c' : ClientCache ρ κ ε} {a : Action ρ κ ε} {es : List (Effect ρ κ ε)}

/-- Once nothing is left of old creations, nothing comes back of them. -/
theorem Move.rid (m : Move c a c' es) {horizon : Nat} (past : horizon ≤ c.generation)
    (h : c.Rid horizon) : c'.Rid horizon := by
  refine ⟨fun g cr' under' old unfinished => ?_, fun key e stored => ?_⟩
  · rcases m.inFlight_cases under' unfinished with ⟨cr, under, before, -⟩ | ⟨rfl, -⟩
    · exact h.ended g cr under old before
    · omega
  · rcases m.entry_cases stored with before | ⟨cr, under, unfinished, -⟩
    · exact h.unstored key e before
    · exact Nat.lt_of_not_le fun old => h.ended _ cr under old unfinished

/-- A clear call that waits goes on waiting, for those of its flights that are not answered yet, or begins
to sweep. -/
theorem Move.waiting_cases (m : Move c a c' es) {n : Nat} {w : Waiting}
    (waits : c.waiting.get? n = some w) (fresh : n < c.calls) :
    (∃ w', c'.waiting.get? n = some w' ∧ w'.horizon = w.horizon ∧ (∀ g ∈ w'.awaited, g ∈ w.awaited) ∧
      ∀ g ∈ w.awaited, c'.creations.get? g ≠ none → g ∈ w'.awaited) ∨
    (a = .sweep n ∧ (∃ s, c'.sweeps.get? n = some s) ∧ c'.creations = c.creations ∧
      ∀ key e, c'.entries.get? key = some e → w.horizon < e.generation) := by
  cases m with
  | cleared =>
    refine .inl ⟨w, ?_, rfl, fun _ h => h, fun _ h _ => h⟩
    rw [Table.get?_insert, if_neg (Nat.ne_of_lt fresh), waits]
  | @answered g =>
    refine .inl ⟨⟨w.horizon, w.awaited.filter fun h => !decide (h = g)⟩, ?_, rfl, ?_, ?_⟩
    · rw [Table.get?_map, waits]
      rfl
    · exact fun h here => List.mem_of_mem_filter here
    · intro h here present
      refine List.mem_filter.2 ⟨here, ?_⟩
      simpa using fun same : h = g => present (by simp [same])
  -- the call itself begins to sweep, or another one
  | @swept call w₀ clients waits₀ =>
    by_cases same : n = call
    · subst same
      obtain rfl := Option.some.inj (waits.symm.trans waits₀)
      refine .inr ⟨rfl, ⟨_, Table.get?_insert_self ..⟩, rfl, fun key e stored => ?_⟩
      simp only [Table.get?_filter, Option.filter_eq_some_iff] at stored
      simpa using stored.2
    · refine .inl ⟨w, ?_, rfl, fun _ h => h, fun _ h _ => h⟩
      rw [Table.get?_erase, if_neg same, waits]
  | _ => exact .inl ⟨w, waits, rfl, fun _ h => h, fun _ h _ => h⟩

/-- A creation that replaces a client where there is no dispose hook ends by itself: its release is being
ended, or stands on the list before the sweep of a clear call. -/
def Imminent (c : ClientCache ρ κ ε) (a : Action ρ κ ε) (n g : Nat) : Prop :=
  (∃ cr x, c.creations.get? g = some cr ∧ cr.stage = .replacing x) ∧
    ∃ r, c.owners.get? r = some (.creation g) ∧ a ≠ .sweep n ∧
      (a = .released r (.ok ()) ∨ ∃ before rest, c.jobs = before ++ .release r :: rest ∧
        .sweep n ∉ before)

/-- **A clear call waits for all that it has to**: the old creations in flight are among those that it
waits for, or end before it sweeps. -/
def Covers (c : ClientCache ρ κ ε) (a : Action ρ κ ε) (n horizon : Nat) : Prop :=
  ∃ w, c.waiting.get? n = some w ∧ w.horizon = horizon ∧
    ∀ g cr, c.creations.get? g = some cr → cr.InFlight → g ≤ horizon →
      g ∈ w.awaited ∨ c.Imminent a n g

omit [DecidableEq κ] in
/-- Taking a continuation off the list leaves a clear call waiting for all that it has to. -/
theorem Covers.occasion {n horizon : Nat} (h : c.Covers .rest n horizon) (i : Input ρ κ ε) :
    (c.occasion i).1.Covers (c.occasion i).2 n horizon := by
  obtain ⟨w, waits, same, cover⟩ := h
  obtain ⟨jobs, here⟩ := c.occasion_fst i
  refine ⟨w, by rw [here]; exact waits, same, fun g cr under unfinished old => ?_⟩
  have under₀ : c.creations.get? g = some cr := by rw [here] at under; exact under
  refine (cover g cr under₀ unfinished old).imp_right ?_
  rintro ⟨replacing, r, owned, -, now | ⟨before, rest, list, later⟩⟩
  · simp at now
  · have keeps : (∃ cr x, (c.occasion i).1.creations.get? g = some cr ∧ cr.stage = .replacing x) ∧
        (c.occasion i).1.owners.get? r = some (.creation g) := by
      rw [here]
      exact ⟨replacing, owned⟩
    refine ⟨keeps.1, r, keeps.2, ?_⟩
    -- the release moves up in front of the sweep, or is taken off to be ended
    cases i with
    | resume =>
      simp only [ClientCache.occasion, list]
      cases before with
      | nil => exact ⟨by simp [Job.action], .inl rfl⟩
      | cons job before =>
        simp only [List.mem_cons, not_or] at later
        refine ⟨fun now => ?_, .inr ⟨before, rest, rfl, later.2⟩⟩
        cases job with
        | sweep call =>
          obtain rfl := Action.sweep.inj now
          exact later.1 rfl
        | _ => simp [Job.action] at now
    | _ => exact ⟨by simp [ClientCache.occasion], .inr ⟨before, rest, list, later⟩⟩

/-- A creation that replaces a client and is still in flight after a move goes on doing so. -/
theorem Move.imminent (m : Move c a c' es) (sound : c.Sound) {n g : Nat} {cr' : Creation ρ κ ε}
    (under' : c'.creations.get? g = some cr') (unfinished : cr'.InFlight) (h : c.Imminent a n g) :
    c'.Imminent .rest n g := by
  obtain ⟨⟨cr, x, under, stage⟩, r, owned, -, soon⟩ := h
  -- only the end of its release takes such a creation further
  have stays : cr'.stage = .replacing x ∧ c'.owners.get? r = some (.creation g) ∧
      a ≠ .released r (.ok ()) := by
    cases m.creation_fate sound under with
    | stays under₁ _ same goes =>
      obtain rfl := Option.some.inj (under'.symm.trans under₁)
      have elsewhere : ∀ result, a ≠ .released r result := fun result ends => goes r result ends owned
      exact ⟨same.trans stage, m.owner_stays sound owned elsewhere, elsewhere _⟩
    | returns _ other | connects _ _ other | answered _ other => cases other.symm.trans stage
    | finishes _ _ _ under₁ _ ended =>
      obtain rfl := Option.some.inj (under'.symm.trans under₁)
      exact absurd ended (unfinished _)
  obtain ⟨more, list'⟩ := m.jobs_prefix
  rcases soon with now | ⟨before, rest, list, later⟩
  · exact absurd now stays.2.2
  · refine ⟨⟨cr', x, under', stays.1⟩, r, stays.2.1, by simp, .inr ⟨before, rest ++ more, ?_, later⟩⟩
    rw [← list', list]
    simp

/-- **A clear call waits on for all that it has to, or has swept**, and then nothing is left of the old
creations. -/
theorem Move.covers (m : Move c a c' es) (orderly : c.OrderlyDuring a) {n horizon : Nat}
    (fresh : n < c.calls) (past : horizon ≤ c.generation) (h : c.Covers a n horizon) :
    c'.Covers .rest n horizon ∨ c'.Rid horizon := by
  obtain ⟨w, waits, rfl, cover⟩ := h
  rcases m.waiting_cases waits fresh with
      ⟨w', waits', same, -, still⟩ | ⟨rfl, -, creations, entries⟩
  · refine .inl ⟨w', waits', same, fun g cr' under' unfinished old => ?_⟩
    rcases m.inFlight_cases under' unfinished with ⟨cr, under, before, -⟩ | ⟨rfl, -⟩
    · rcases cover g cr under before old with here | soon
      · exact .inl (still g here (by simp [under']))
      · exact .inr (m.imminent orderly.sound under' unfinished soon)
    · omega
  · -- the sweep: no flight is awaited any more, and no release is to end before it
    refine .inr ⟨fun g cr under old unfinished => ?_, entries⟩
    rw [creations] at under
    rcases cover g cr under unfinished old with here | ⟨-, r, -, other, -⟩
    · simp [orderly.live.sweeps_ready n w (.inr rfl) waits] at here
    · exact other rfl

/-- A clear call that is made while every creation is listed waits for all that it has to. -/
theorem Listed.covers (h : c.Listed) (live : c.Live) :
    (c.step .clear).1.Covers .rest c.calls c.generation := by
  rw [step, clear_eq]
  refine ⟨⟨c.generation, c.flights.values.map Flight.generation⟩, Table.get?_insert_self .., rfl, ?_⟩
  intro g cr under unfinished _
  by_cases lingers : c.Lingers cr
  · have flight := h g cr under lingers
    exact .inl (List.mem_map.2 ⟨_, Table.mem_values_iff.2 ⟨cr.key, flight⟩, rfl⟩)
  · -- it replaces a client where there is no hook: its release stands on the list already
    simp only [Lingers, not_or, not_and] at lingers
    obtain ⟨x, stage⟩ : ∃ x, cr.stage = .replacing x := by
      cases stage : cr.stage with
      | releasing => exact absurd stage lingers.1
      | connecting => exact absurd stage lingers.2.1
      | replacing x => exact ⟨x, rfl⟩
      | finished outcome => exact absurd stage (unfinished outcome)
    have hookless : c.disposes = false := by
      cases hook : c.disposes with
      | true => exact absurd ⟨x, stage⟩ (lingers.2.2 hook)
      | false => rfl
    obtain ⟨r, owned⟩ := live.waits_owned g cr under (.inr ⟨x, stage⟩)
    have soon := (live.hookless_ends r _ hookless owned).resolve_right (by simp)
    obtain ⟨before, rest, list⟩ := List.append_of_mem soon
    have later : .sweep c.calls ∉ before := fun here =>
      Nat.lt_irrefl _ (live.sweep_lt c.calls (list ▸ List.mem_append_left _ here))
    refine .inr ⟨⟨cr, x, under, stage⟩, r, owned, by simp, .inr ?_⟩
    by_cases none : (c.flights.values.map Flight.generation).isEmpty
    · exact ⟨before, rest ++ [.sweep c.calls], by simp [none, list], later⟩
    · exact ⟨before, rest, by simp [none, list], later⟩

/-- A call that waits to sweep is not answered by a move. -/
theorem Move.waiting_unanswered (m : Move c a c' es) (attended : c.Attended) {n : Nat} {w : Waiting}
    (waits : c.waiting.get? n = some w) (o : Except ε (Answer κ)) : .settled n o ∉ es := by
  intro here
  rcases m.settled_cases here with ⟨rfl, -⟩ | ⟨g, cr, -, -, under, caller, -⟩ | ⟨s, -, sweeping, -⟩
  · exact Nat.lt_irrefl _ (attended.waiting_lt _ w waits)
  · exact attended.waiting_apart n w g cr waits under caller
  · simp [attended.waiting_sweep n w waits] at sweeping

/-- **A clear call made while every creation is listed clears.** -/
theorem Listed.clears (h : c.Listed) (orderly : c.Orderly) : c.Clears := by
  intro inputs outcome answered
  -- until nothing is left of the old creations, the call waits and is not answered
  suffices phase : c.generation ≤ ((c.step .clear).1.after inputs).generation ∧
      (((c.step .clear).1.after inputs).Rid c.generation ∨
        (((c.step .clear).1.after inputs).Covers .rest c.calls c.generation ∧
          ∀ o, .settled c.calls o ∉ (c.step .clear).1.asked inputs)) by
    rcases phase with ⟨-, rid | ⟨-, unanswered⟩⟩
    · exact rid
    · exact absurd answered (unanswered outcome)
  clear answered
  induction inputs using List.reverseRecOn with
  | nil =>
    refine ⟨(step_move orderly.sound .clear).generation_le, .inr ⟨h.covers orderly.live, ?_⟩⟩
    simp [asked, trace]
  | append_singleton l i ih =>
    have orderly_l := (orderly.step .clear).after l
    have acting := orderly_l.occasion i
    have move := step_move orderly_l.sound i
    obtain ⟨jobs, same⟩ := ((c.step .clear).1.after l).occasion_fst i
    obtain ⟨past, phase⟩ := ih
    have past_here : c.generation ≤ (((c.step .clear).1.after l).occasion i).1.generation := by
      rw [same]
      exact past
    rw [after_concat, asked_concat]
    refine ⟨Nat.le_trans past_here move.generation_le, ?_⟩
    rcases phase with rid | ⟨covers, unanswered⟩
    · refine .inl (move.rid past_here ?_)
      rw [same]
      exact ⟨rid.ended, rid.unstored⟩
    · have covering := covers.occasion i
      have ⟨w, waits, _⟩ := covering
      have fresh := acting.attended.waiting_lt _ w waits
      rcases move.covers acting fresh past_here covering with covers' | rid
      · refine .inr ⟨covers', fun o here => ?_⟩
        rcases List.mem_append.1 here with here | here
        · exact unanswered o here
        · exact move.waiting_unanswered acting.attended waits o here
      · exact .inl rid

end ServiceAccess.ClientCache

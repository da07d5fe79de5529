import ServiceAccess.Proofs.ClientCache.Uniform

/-! # Creations that are overdue

When the create call of a creation has ended, its callers are answered in a continuation that runs later, and until then
the creation is still the flight of its key. A call that comes in between finds nothing stored when the create call has
failed, or when its client has been released since. It joins what is over.

* **`Stuck`**: what such a call finds: nothing is stored, and the flight is over.
* **`Overdue`**: how this comes about, from the inputs and the answers alone. **`overdue_iff`** says that there is no
  other way in a run of calls with one fingerprint. -/

namespace ServiceAccess.ClientCache

variable {ρ κ ε : Type} {c c' : ClientCache ρ κ ε} {key fp : String}

/-- **A key is stuck**: nothing is stored under it, and its flight is over. -/
def Stuck (c : ClientCache ρ κ ε) (key : String) : Prop :=
  c.entries.get? key = none ∧
    ∃ f outcome, c.flights.get? key = some f ∧ c.outcome? f.generation = some outcome

variable [DecidableEq κ]

/-- **A key is overdue** after some inputs: a call for it has started a creation, the create call of that has ended
`since`, and the call has not been answered. The create call has failed, or its client has been released for other
credentials. -/
def Overdue (c : ClientCache ρ κ ε) (fp key : String) (inputs : List (Input ρ κ ε)) : Prop :=
  ∃ earlier request waiting g result since,
    inputs = earlier ++ .acquire key fp request :: waiting ++ .created g result :: since ∧
    .create g request ∈ ((c.after earlier).step (.acquire key fp request)).2 ∧
    (∀ result, .created g result ∉ waiting) ∧
    (∀ x, result = .ok x → ∃ f, f ≠ fp ∧ .evictStale f ∈ since) ∧
    outcomesOf (c.after earlier).calls (c.asked inputs) = []

/-! ## From the start of a creation to its end -/

/-- The call that makes a create call starts its creation. -/
theorem Move.started_of_create {a : Action ρ κ ε} {es : List (Effect ρ κ ε)} (m : Move c a c' es) {request : ρ}
    (call : a = .acquire key fp request) {g : Nat} (asked : .create g request ∈ es) :
    c'.creations.get? g = some ⟨key, fp, request, .connecting, [c.calls]⟩ := by
  subst call
  cases m with
  | started =>
    obtain rfl : g = c.generation + 1 := by simpa using asked
    exact Table.get?_insert_self ..
  | restarted =>
    simp only [releaseEffects, List.mem_cons, reduceCtorEq, false_or] at asked
    split at asked <;> simp at asked
  | _ => simp at asked

section
variable {disposes : Bool} {l m : List (Input ρ κ ε)} {g : Nat} {cr : Creation ρ κ ε}

/-- A creation waits for its create call until that ends. -/
theorem connecting_since (under : ((empty disposes).after l).creations.get? g = some cr)
    (stage : cr.stage = .connecting) (waiting : ∀ result, .created g result ∉ m) :
    ∃ cr', ((empty disposes).after (l ++ m)).creations.get? g = some cr' ∧ cr'.stage = .connecting := by
  induction m using List.reverseRecOn with
  | nil => exact ⟨cr, by rwa [List.append_nil], stage⟩
  | append_singleton m i ih =>
    obtain ⟨cr₁, under₁, stage₁⟩ := ih fun result here => waiting result (List.mem_append_left _ here)
    have sound := sound_after (ρ := ρ) (κ := κ) (ε := ε) disposes (l ++ m)
    obtain ⟨jobs, move⟩ := exists_move sound i
    have goes : ∀ result, (((empty disposes).after (l ++ m)).occasion i).2 ≠ .created g result := by
      intro result call
      obtain rfl : i = .created g result := eq_of_occasion call rfl
      exact waiting result (by simp)
    rw [← List.append_assoc, after_concat]
    obtain ⟨cr₂, under₂, stage₂, -⟩ := move.connecting_stays (sound.withJobs jobs) under₁ stage₁ goes
    exact ⟨cr₂, under₂, stage₂⟩

/-- A call that has made a create call waits with its creation until that ends. -/
theorem waits_since {request : ρ}
    (asked : .create g request ∈ (((empty disposes).after l).step (.acquire key fp request)).2)
    (waiting : ∀ result, .created g result ∉ m) :
    ∃ cr, ((empty disposes).after (l ++ .acquire key fp request :: m)).creations.get? g = some cr ∧
      cr.stage = .connecting ∧ cr.key = key ∧ ((empty disposes : ClientCache ρ κ ε).after l).calls ∈ cr.callers := by
  have started := (step_move (sound_after disposes l) (.acquire key fp request)).started_of_create rfl asked
  rw [← after_concat] at started
  obtain ⟨cr, under, stage⟩ := connecting_since started rfl waiting
  rw [after_append] at under
  have later := Creation.Continues.after (sound_after disposes _) started under
  rw [← after_append, List.append_assoc] at under
  exact ⟨cr, under, stage, later.key, later.callers.subset (List.mem_singleton_self _)⟩

/-- A creation is there as long as a caller of it has not been answered. -/
theorem under_of_unanswered (under : ((empty disposes).after l).creations.get? g = some cr) {n : Nat}
    (caller : n ∈ cr.callers) (unanswered : outcomesOf n ((empty disposes).asked (l ++ m)) = []) :
    ∃ cr', ((empty disposes).after (l ++ m)).creations.get? g = some cr' := by
  rw [asked_append, outcomesOf_append, List.append_eq_nil_iff] at unanswered
  rw [after_append]
  rcases settlesWith_of_caller (sound_after disposes l) (attended_after disposes l) under caller m with
    ⟨cr', under', -⟩ | ⟨-, -, outcome, -, -, -, answered⟩
  · exact ⟨cr', under'⟩
  · rw [unanswered.2] at answered
    cases answered

/-- A creation that is there at two moments is there between them. -/
theorem exists_between (under : ((empty disposes).after l).creations.get? g = some cr) {cr' : Creation ρ κ ε}
    (under' : ((empty disposes).after (l ++ m)).creations.get? g = some cr') {m' : List (Input ρ κ ε)}
    (part : m' <+: m) : ∃ cr₁, ((empty disposes).after (l ++ m')).creations.get? g = some cr₁ ∧
      cr.Continues cr₁ := by
  obtain ⟨rest, rfl⟩ := part
  have sound := sound_after (ρ := ρ) (κ := κ) (ε := ε) disposes
  have numbered : g ≤ ((empty disposes).after (l ++ m')).generation := by
    rw [after_append]
    exact Nat.le_trans ((sound l).creation_le g cr under) (generation_le_after (sound l) m')
  cases here : ((empty disposes).after (l ++ m')).creations.get? g with
  | none =>
    rw [← List.append_assoc, after_append, gone_after (sound (l ++ m')) numbered here] at under'
    cases under'
  | some cr₁ =>
    rw [after_append] at here
    exact ⟨cr₁, rfl, Creation.Continues.after (sound l) under here⟩

/-- **What is kept until the callers of a creation are answered**, once it is over. -/
theorem keeps_since {outcome : Except ε κ} {P : ClientCache ρ κ ε → Prop}
    (under : ((empty disposes).after l).creations.get? g = some cr) (ended : cr.stage = .finished outcome)
    (start : P ((empty disposes).after l))
    (next : ∀ l' i cr', l' ++ [i] <+: m → ((empty disposes).after (l ++ l')).creations.get? g = some cr' →
      cr'.key = cr.key → cr'.stage = .finished outcome → P ((empty disposes).after (l ++ l')) →
      P (((empty disposes).after (l ++ l')).step i).1)
    {cr' : Creation ρ κ ε} (under' : ((empty disposes).after (l ++ m)).creations.get? g = some cr') :
    P ((empty disposes).after (l ++ m)) := by
  induction m using List.reverseRecOn generalizing cr' with
  | nil => rwa [List.append_nil]
  | append_singleton m i ih =>
    obtain ⟨cr₁, under₁, later⟩ := exists_between under under' (List.prefix_append m [i])
    have kept := ih (fun l' i cr' before => next l' i cr' (before.trans (List.prefix_append ..))) under₁
    have finished : cr₁.stage = .finished outcome := by
      rw [after_append] at under₁
      exact finished_after (sound_after disposes l) under ended under₁
    rw [← List.append_assoc, after_concat]
    exact next m i cr₁ (List.prefix_refl _) under₁ later.key finished kept

variable (one : ∀ key f request, .acquire key f request ∈ l ++ m → f = fp)
include one

/-- The client of a creation stays until then, if nothing is released for other credentials. -/
theorem entry_since {outcome : Except ε κ} (under : ((empty disposes).after l).creations.get? g = some cr)
    (ended : cr.stage = .finished outcome) (kept : ∀ f, .evictStale f ∈ m → f = fp) {e : Entry κ}
    (stored : ((empty disposes).after l).entries.get? cr.key = some e) {cr' : Creation ρ κ ε}
    (under' : ((empty disposes).after (l ++ m)).creations.get? g = some cr') :
    ((empty disposes).after (l ++ m)).entries.get? cr.key = some e := by
  refine keeps_since (P := fun c => c.entries.get? cr.key = some e) under ended stored ?_ under'
  intro l' i cr₁ part under₁ key finished stored₁
  have last : i ∈ m := part.subset (by simp)
  have within : l ++ l' <+: l ++ m := (List.prefix_append_right_inj l).2 ((List.prefix_append ..).trans part)
  have uniform := uniform_before disposes one within
  have orderly := orderly_after (ρ := ρ) (κ := κ) (ε := ε) disposes (l ++ l')
  have move := step_move orderly.sound i
  have live := (orderly.occasion i).live
  obtain ⟨jobs, same⟩ := ((empty disposes : ClientCache ρ κ ε).after (l ++ l')).occasion_fst i
  rw [same] at move live
  rw [← key] at stored₁ ⊢
  refine move.entry_stays live (uniform.withJobs jobs)
    (fun n w waits => (waiting_horizon_after disposes _ n w waits).withJobs jobs) ?_ under₁ finished ?_ stored₁
  · intro k f request call
    obtain rfl : i = .acquire k f request := eq_of_occasion call rfl
    exact one k f request (List.mem_append_right _ last)
  · intro f call
    obtain rfl : i = .evictStale f := eq_of_occasion call rfl
    exact kept f last

/-- Where nothing is stored, nothing will be until then. -/
theorem absent_since {outcome : Except ε κ} (under : ((empty disposes).after l).creations.get? g = some cr)
    (ended : cr.stage = .finished outcome) (absent : ((empty disposes).after l).entries.get? cr.key = none)
    {cr' : Creation ρ κ ε} (under' : ((empty disposes).after (l ++ m)).creations.get? g = some cr') :
    ((empty disposes).after (l ++ m)).entries.get? cr.key = none := by
  refine keeps_since (P := fun c => c.entries.get? cr.key = none) under ended absent ?_ under'
  intro l' i cr₁ part under₁ key finished absent₁
  have within : l ++ l' <+: l ++ m := (List.prefix_append_right_inj l).2 ((List.prefix_append ..).trans part)
  have uniform := uniform_before disposes one within
  obtain ⟨jobs, move⟩ := exists_move (sound_after disposes (l ++ l')) i
  rw [← key] at absent₁ ⊢
  exact move.absent_stays (uniform.withJobs jobs) under₁ finished absent₁

omit one in
/-- A creation is there only after the call that has started it. -/
theorem begins_before {request : ρ} {inputs : List (Input ρ κ ε)}
    (parts : inputs = l ++ .acquire key fp request :: m)
    (next : g = ((empty disposes : ClientCache ρ κ ε).after l).generation + 1) {l' : List (Input ρ κ ε)}
    (part : l' <+: inputs) (under : ((empty disposes).after l').creations.get? g = some cr) :
    ∃ waiting, l' = l ++ .acquire key fp request :: waiting := by
  have start : l ++ [.acquire key fp request] <+: inputs := ⟨m, by simp [parts]⟩
  rcases List.prefix_or_prefix_of_prefix start part with ⟨waiting, rfl⟩ | early
  · exact ⟨waiting, by simp⟩
  · rcases List.prefix_concat_iff.1 early with rfl | ⟨rest, rfl⟩
    · exact ⟨[], rfl⟩
    · -- it has not been numbered before
      have sound := sound_after (ρ := ρ) (κ := κ) (ε := ε) disposes l'
      have numbered := Nat.le_trans (sound.creation_le g cr under) (generation_le_after sound rest)
      rw [← after_append] at numbered
      omega

/-- A creation that waits for its create call has waited for it all the time. -/
theorem unended_of_connecting {l' : List (Input ρ κ ε)} (part : l ++ l' <+: l ++ m)
    (under : ((empty disposes).after l).creations.get? g = some cr) {cr' : Creation ρ κ ε}
    (under' : ((empty disposes).after (l ++ l')).creations.get? g = some cr') (stage : cr'.stage = .connecting)
    (result : Except ε κ) : .created g result ∉ l' := by
  intro here
  obtain ⟨early, late, rfl⟩ := List.append_of_mem here
  obtain ⟨cr₁, under₁, -⟩ := exists_between under under' (List.prefix_append early _)
  have before : l ++ early <+: l ++ (early ++ .created g result :: late) :=
    (List.prefix_append_right_inj l).2 (List.prefix_append ..)
  rcases (uniform_before disposes one (before.trans part)).stage g cr₁ under₁ with ⟨stage₁, -⟩ | ⟨outcome, finished⟩
  · have ended : (empty disposes).Ended (l ++ (early ++ .created g result :: late)) g result :=
      ⟨l ++ early, cr₁, ⟨late, by simp⟩, under₁, stage₁⟩
    exact ended.over under' stage
  · rw [← List.append_assoc, after_append] at under'
    have still := finished_after (sound_after disposes _) under₁ finished under'
    simp [stage] at still

/-- Nothing is stored beside a creation that has failed, or whose client has been released. -/
theorem absent_of_over {result : Except ε κ} (under : ((empty disposes).after l).creations.get? g = some cr)
    (finished : cr.stage = .finished result) (released : ∀ x, result = .ok x → ∃ f, f ≠ fp ∧ .evictStale f ∈ m)
    {cr' : Creation ρ κ ε} (under' : ((empty disposes).after (l ++ m)).creations.get? g = some cr') :
    ((empty disposes).after (l ++ m)).entries.get? cr.key = none := by
  cases result with
  | error e =>
    -- what is stored beside it would have come from it
    refine Option.eq_none_iff_forall_ne_some.2 fun e' stored => ?_
    have uniform := uniform_before disposes one (List.prefix_refl _)
    obtain ⟨cr₁, under₁, later⟩ := exists_between under under' (List.prefix_refl m)
    obtain rfl := Option.some.inj (under₁.symm.trans under')
    rw [after_append] at under'
    have finished' := finished_after (sound_after disposes l) under finished under'
    rw [← later.key] at stored
    obtain ⟨failed, -⟩ := uniform.stored g cr₁ _ e' under₁ finished' stored
    cases failed
  | ok x =>
    -- the client has been released, and no other one takes its place
    obtain ⟨f, other, here⟩ := released x rfl
    obtain ⟨early, late, rfl⟩ := List.append_of_mem here
    have part : early ++ [.evictStale f] <+: early ++ .evictStale f :: late := ⟨late, by simp⟩
    obtain ⟨cr₁, under₁, later⟩ := exists_between under under' part
    have gone : ((empty disposes).after (l ++ (early ++ [.evictStale f]))).entries.get? cr₁.key = none := by
      obtain ⟨jobs, move⟩ := exists_move (sound_after disposes (l ++ early)) (.evictStale f)
      have uniform := uniform_before disposes one ((List.prefix_append_right_inj l).2 (List.prefix_append ..))
      rw [← List.append_assoc, after_concat]
      exact move.evicts_uniform (uniform.withJobs jobs) other cr₁.key
    have whole : l ++ (early ++ .evictStale f :: late) = l ++ (early ++ [.evictStale f]) ++ late := by simp
    rw [whole] at one under' ⊢
    have finished₁ : cr₁.stage = .finished (.ok x) := by
      rw [after_append] at under₁
      exact finished_after (sound_after disposes l) under finished under₁
    rw [← later.key]
    exact absent_since one under₁ finished₁ gone under'

/-- A client that is not stored any more has been released. -/
theorem released_of_absent {x : κ} (under : ((empty disposes).after l).creations.get? g = some cr)
    (finished : cr.stage = .finished (.ok x)) {e : Entry κ}
    (stored : ((empty disposes).after l).entries.get? cr.key = some e) {cr' : Creation ρ κ ε}
    (under' : ((empty disposes).after (l ++ m)).creations.get? g = some cr')
    (absent : ((empty disposes).after (l ++ m)).entries.get? cr.key = none) :
    ∃ f, f ≠ fp ∧ .evictStale f ∈ m := by
  by_contra! kept
  have still := entry_since one under finished (fun f here => by_contra fun other => kept f other here) stored under'
  simp [absent] at still

end

/-! ## Overdue and stuck -/

section
variable {disposes : Bool} {inputs : List (Input ρ κ ε)}
  (one : ∀ key f request, .acquire key f request ∈ inputs → f = fp)
include one

/-- **A key that is overdue is stuck.** -/
theorem Overdue.stuck (h : (empty disposes).Overdue fp key inputs) : ((empty disposes).after inputs).Stuck key := by
  obtain ⟨earlier, request, waiting, g, result, since, rfl, asked, before, released, unanswered⟩ := h
  obtain ⟨cr, under, stage, rfl, caller⟩ := waits_since asked before
  generalize earlier ++ .acquire cr.key fp request :: waiting = l at under one unanswered
  -- the creation is over, and still there at the end
  have uniform {part : List (Input ρ κ ε)} (before : part <+: l ++ .created g result :: since) :=
    uniform_before disposes one before
  obtain ⟨finished, -⟩ := (step_move (sound_after disposes l) (.created g result)).finishes_uniform
    (uniform (List.prefix_append ..)) under stage
  rw [← after_concat] at finished
  rw [List.append_cons] at one unanswered uniform ⊢
  obtain ⟨cr', under'⟩ := under_of_unanswered finished caller unanswered
  obtain ⟨cr₁, under₁, later⟩ := exists_between finished under' (List.prefix_refl since)
  obtain rfl := Option.some.inj (under₁.symm.trans under')
  have flight := (uniform (List.prefix_refl _)).listed g cr₁ under'
  rw [later.key] at flight
  have absent := absent_of_over one finished rfl released under'
  refine ⟨absent, ⟨fp, g⟩, result, flight, ?_⟩
  rw [after_append] at under₁
  have ended := finished_after (sound_after disposes _) finished rfl under₁
  exact outcome?_eq_some_iff.2 ⟨cr₁, under', ended⟩

/-- **A key that is stuck is overdue.** -/
theorem Stuck.overdue (h : ((empty disposes).after inputs).Stuck key) : (empty disposes).Overdue fp key inputs := by
  obtain ⟨absent, flight, outcome, listed, ended⟩ := h
  have sound := sound_after (ρ := ρ) (κ := κ) (ε := ε) disposes
  have uniform {part : List (Input ρ κ ε)} (before : part <+: inputs) :=
    uniform_before disposes one before
  obtain ⟨-, cr, under, rfl⟩ := (uniform (List.prefix_refl _)).flight (sound inputs) listed
  have same := (uniform (List.prefix_refl _)).fingerprint (sound inputs) under
  -- a call has started the creation, and its create call has ended later
  obtain ⟨earlier, m, parts, next, stage, started⟩ := begun_after disposes under
  obtain ⟨l, cr₁, part, under₁, stage₁⟩ := ended_of_outcome disposes one ended
  rw [same] at parts started
  obtain ⟨waiting, rfl⟩ := begins_before parts next ((List.prefix_append ..).trans part) under₁
  obtain ⟨since, rfl⟩ := part
  have begins : earlier <+: earlier ++ .acquire cr.key fp cr.request :: waiting ++ [.created flight.generation outcome]
      ++ since := ⟨.acquire cr.key fp cr.request :: (waiting ++ .created flight.generation outcome :: since), by simp⟩
  have move : Move ((empty disposes).after earlier) (.acquire cr.key fp cr.request) _ _ :=
    step_move (sound earlier) (.acquire cr.key fp cr.request)
  obtain ⟨-, asked⟩ := move.starts_uniform (sound earlier) (uniform begins) (next ▸ started)
  rw [← next] at asked
  rw [← after_concat] at started
  refine ⟨earlier, cr.request, waiting, flight.generation, outcome, since, by simp, asked, ?_, ?_, ?_⟩
  · rw [List.append_cons] at under₁
    have part : earlier ++ [.acquire cr.key fp cr.request] ++ waiting <+: earlier ++ [.acquire cr.key fp cr.request]
        ++ (waiting ++ [.created flight.generation outcome] ++ since) := by simp [List.prefix_append_right_inj]
    exact unended_of_connecting (by simpa using one) part started under₁ stage₁
  · rintro x rfl
    obtain ⟨finished, stored⟩ := (step_move (sound _) (.created flight.generation (.ok x))).finishes_uniform
      (uniform ((List.prefix_append _ [_]).trans (List.prefix_append _ since))) under₁ stage₁
    rw [← after_concat] at finished stored
    have key := (creation_eq disposes (List.prefix_append _ since) (List.prefix_refl _) finished under).1
    exact released_of_absent one finished rfl (stored x rfl) under (key ▸ absent)
  · exact (Called.unanswered ⟨_, _, ⟨waiting ++ .created flight.generation outcome :: since, by simp⟩, started,
      List.mem_singleton_self _⟩ under).2

/-- **A key is stuck exactly when it is overdue.** -/
theorem overdue_iff : (empty disposes).Overdue fp key inputs ↔ ((empty disposes).after inputs).Stuck key :=
  ⟨fun h => h.stuck one, fun h => h.overdue one⟩

end

end ServiceAccess.ClientCache

import ServiceAccess.Proofs.ClientCache.Provenance
import ServiceAccess.Proofs.ClientCache.Sessions

/-! # Nobody is left waiting

A call of a cache is answered once or attended by somebody who waits. When all continuations have run and the
surroundings owe the cache nothing, nobody waits any more.

* **`Pending`**: a call that is attended. **`Move.served`** says what becomes of every call in a move, and
  **`served_after`** what has become of it in a run.
* **`outstanding_iff`**, **`exists_disposing_iff`**: the calls that the surroundings owe an end are those that
  a creation or an owner waits for.
* **`Quiet`**: all continuations have run, and the surroundings owe no end. **`quiet_iff`** is about the state.
* **`settled_of_quiet`**: then every call has been answered, and no flight is left. -/

namespace ServiceAccess.ClientCache

variable {ρ κ ε : Type}

/-! ## Pending calls -/

/-- **A pending call**: somebody attends it. -/
inductive Pending (c : ClientCache ρ κ ε) (n : Nat) : Prop
  /-- A creation has it among its callers. -/
  | called {g : Nat} {cr : Creation ρ κ ε} : c.creations.get? g = some cr → n ∈ cr.callers → Pending c n
  /-- It sweeps. -/
  | sweeps {s : Sweep κ ε} : c.sweeps.get? n = some s → Pending c n
  /-- It waits to sweep. -/
  | waits {w : Waiting} : c.waiting.get? n = some w → Pending c n

/-- **What has become of a call** that has had some outcomes: it is pending and has had none, or it has been
answered once and nobody attends it any more. -/
def Served (c : ClientCache ρ κ ε) (n : Nat) (outcomes : List (Except ε (Answer κ))) : Prop :=
  (c.Pending n ∧ outcomes = []) ∨ (c.Retired n ∧ ∃ o, outcomes = [o])

/-- Whether a call is pending does not depend on the continuations. -/
theorem Pending.withJobs {c : ClientCache ρ κ ε} {n : Nat} (h : c.Pending n) (jobs : List Job) :
    Pending { c with jobs := jobs } n := by
  cases h with
  | called under caller => exact .called under caller
  | sweeps sweeping => exact .sweeps sweeping
  | waits waits => exact .waits waits

/-- What has become of a call does not depend on the continuations. -/
theorem Served.withJobs {c : ClientCache ρ κ ε} {n : Nat} {outcomes : List (Except ε (Answer κ))}
    (h : c.Served n outcomes) (jobs : List Job) : Served { c with jobs := jobs } n outcomes :=
  h.imp (fun h => ⟨h.1.withJobs jobs, h.2⟩) fun h => ⟨h.1.withJobs jobs, h.2⟩

variable [DecidableEq κ]
variable {c c' : ClientCache ρ κ ε} {a : Action ρ κ ε} {es : List (Effect ρ κ ε)}

/-- A call that sweeps goes on sweeping and gets no answer, or it is answered with the outcome of its sweep. -/
theorem Move.sweep_fate (m : Move c a c' es) (h : c.Attended) {n : Nat} {s : Sweep κ ε}
    (sweeping : c.sweeps.get? n = some s) : c'.Served n (outcomesOf n es) := by
  have uncalled := h.sweep_apart n s
  by_cases now : a = .conclude n
  · subst now
    refine .inr ?_
    cases m with
    | @concluded _ s₀ =>
      refine ⟨⟨h.sweep_lt n s sweeping, fun g cr => uncalled g cr sweeping, by simp,
        h.sweep_unwaiting sweeping⟩, s₀.outcome, ?_⟩
      rw [outcomesOf, List.filterMap_cons, Effect.outcomeOf?, if_pos rfl, List.filterMap_nil]
    | idle nothing => simp [nothing] at sweeping
  · refine .inl ⟨?_, outcomesOf_eq_nil_iff.2 fun o here => ?_⟩
    · rcases m.sweep_stays h sweeping now with sweeping' | ⟨_, _, -, -, sweeping'⟩
      · exact .sweeps sweeping'
      · exact .sweeps sweeping'
    · rcases m.settled_cases here with
          ⟨rfl, -⟩ | ⟨g, cr, -, -, under, caller, -⟩ | ⟨s, conclude, -⟩
      · exact Nat.lt_irrefl _ (h.sweep_lt _ s sweeping)
      · exact uncalled g cr sweeping under caller
      · exact now conclude

/-- **What becomes of a pending call in a move.** -/
theorem Move.pending_fate (m : Move c a c' es) (sound : c.Sound) (h : c.Attended) {n : Nat}
    (pending : c.Pending n) : c'.Served n (outcomesOf n es) := by
  cases pending with
  | called under caller =>
    rcases m.caller_fate sound h under caller with ⟨cr', under', caller', none⟩ | ⟨o, -, one, retired⟩
    · exact .inl ⟨.called under' caller', none⟩
    · exact .inr ⟨retired, _, one⟩
  | sweeps sweeping => exact m.sweep_fate h sweeping
  | @waits w waits =>
    refine .inl ⟨?_, outcomesOf_eq_nil_iff.2 fun o here => ?_⟩
    · rcases m.waiting_cases waits (h.waiting_lt n w waits) with ⟨w', waits', -⟩ | ⟨-, ⟨s, sweeping⟩, -⟩
      · exact .waits waits'
      · exact .sweeps sweeping
    · exact m.waiting_unanswered h waits o here

/-- **What becomes of a call that is made.** -/
theorem Move.call_fate (m : Move c a c' es) (sound : c.Sound) (h : c.Attended)
    (made : c'.calls = c.calls + 1) : c'.Served c.calls (outcomesOf c.calls es) := by
  cases a with
  | acquire =>
    rcases m.acquire_cases h sound with ⟨e, -, -, retired, one⟩ | ⟨g, cr, under, -, -, caller, none⟩
    · exact .inr ⟨retired, _, one⟩
    · exact .inl ⟨.called under caller, none⟩
  | evictStale =>
    cases m with
    | evicted =>
      refine .inl ⟨.sweeps (Table.get?_insert_self ..), outcomesOf_eq_nil_iff.2 fun o here => ?_⟩
      exact settled_not_mem_sweepEffects _ _ _ here
    | idle nothing => exact nothing.elim
  | clear =>
    cases m with
    | cleared => exact .inl ⟨.waits (Table.get?_insert_self ..), rfl⟩
    | idle nothing => exact nothing.elim
  | _ => cases m <;> simp at made

/-- Only the call that is being made takes a number. -/
theorem Move.calls_cases (m : Move c a c' es) : c'.calls = c.calls ∨ c'.calls = c.calls + 1 := by
  cases m <;> simp

/-- A call that has not been made is not answered. -/
theorem Move.unmade (m : Move c a c' es) (h : c.Attended) {n : Nat} (later : c'.calls ≤ n) :
    outcomesOf n es = [] := by
  refine outcomesOf_eq_nil_iff.2 fun o here => ?_
  have fresh := Nat.le_trans m.calls_le later
  rcases m.settled_cases here with
      ⟨rfl, key, fp, request, e, rfl, -⟩ | ⟨g, cr, -, -, under, caller, -⟩ | ⟨s, -, sweeping, -⟩
  · cases m with
    | idle nothing => exact nothing.elim
    | _ => exact absurd later (Nat.not_succ_le_self _)
  · exact Nat.not_lt.2 fresh (h.caller_lt g cr n under caller)
  · exact Nat.not_lt.2 fresh (h.sweep_lt n s sweeping)

/-- What happens to a call in one more move adds to what has become of it. -/
theorem Move.served (m : Move c a c' es) (sound : c.Sound) (h : c.Attended) {n : Nat}
    {outcomes : List (Except ε (Answer κ))} (served : c.Served n outcomes) :
    c'.Served n (outcomes ++ outcomesOf n es) := by
  rcases served with ⟨pending, rfl⟩ | ⟨retired, o, rfl⟩
  · exact m.pending_fate sound h pending
  · obtain ⟨retired', none⟩ := m.retired retired
    exact .inr ⟨retired', o, by rw [none, List.append_nil]⟩

/-! ## Calls in a run -/

/-- Whether something that happens to a cache is a call. -/
def Input.isCall : Input ρ κ ε → Bool
  | .acquire .. | .evictStale _ | .clear => true
  | _ => false

/-- A call takes a number. -/
theorem Move.calls_lt (m : Move c a c' es) {i : Input ρ κ ε} (own : a.input? = some i)
    (call : i.isCall = true) : c.calls < c'.calls := by
  cases m with
  | hit | joined | started | restarted | evicted | cleared => exact Nat.lt_succ_self _
  | idle nothing =>
    cases a with
    | acquire | evictStale | clear => exact nothing.elim
    | created =>
      obtain rfl := Option.some.inj own
      cases call
    | _ => cases own
  | stored | superseded | replacing | failed =>
    obtain rfl := Option.some.inj own
    cases call
  | _ => cases own

theorem calls_lt_of_isCall (sound : c.Sound) {i : Input ρ κ ε} (call : i.isCall = true) :
    c.calls < (c.step i).1.calls := by
  have move := step_move sound i
  cases i with
  | acquire | evictStale | clear => exact move.calls_lt rfl call
  | _ => cases call

/-- **What has become of the calls in a run**: those that have not been made have no answer, and each of the
others is pending or has been answered once. -/
theorem served_after (disposes : Bool) (inputs : List (Input ρ κ ε)) (n : Nat) :
    (((empty disposes).after inputs).calls ≤ n → outcomesOf n ((empty disposes).asked inputs) = []) ∧
      (n < ((empty disposes).after inputs).calls →
        ((empty disposes).after inputs).Served n (outcomesOf n ((empty disposes).asked inputs))) := by
  induction inputs using List.reverseRecOn with
  | nil => exact ⟨fun _ => rfl, fun made => absurd made (Nat.not_lt_zero n)⟩
  | append_singleton l i ih =>
    obtain ⟨unmade, served⟩ := ih
    have sound := sound_after (ρ := ρ) (κ := κ) (ε := ε) disposes l
    have attended := attended_after (ρ := ρ) (κ := κ) (ε := ε) disposes l
    obtain ⟨jobs, move⟩ := exists_move sound i
    rw [after_concat, asked_concat, outcomesOf_append]
    refine ⟨fun later => ?_, fun made => ?_⟩
    · rw [unmade (Nat.le_trans move.calls_le later), move.unmade (attended.withJobs jobs) later]
      rfl
    · by_cases before : n < ((empty disposes).after l).calls
      · have so_far := (served before).withJobs jobs
        exact move.served (sound.withJobs jobs) (attended.withJobs jobs) so_far
      · -- the call is made by the last input
        rcases move.calls_cases with same | next
        · exact absurd (Nat.lt_of_lt_of_eq made same) before
        · obtain rfl : n = ((empty disposes).after l).calls :=
            Nat.le_antisymm (Nat.le_of_lt_succ (Nat.lt_of_lt_of_eq made next)) (Nat.le_of_not_lt before)
          rw [unmade (Nat.le_refl _)]
          exact move.call_fate (sound.withJobs jobs) (attended.withJobs jobs) next

/-! ## What the surroundings owe -/

/-- **A create call is outstanding.** -/
def Creating (c : ClientCache ρ κ ε) (inputs : List (Input ρ κ ε)) (g : Nat) (request : ρ) : Prop :=
  c.Owed inputs (.create g request) fun i => ∃ result, i = .created g result

/-- A creation that waits for its create call after a move did so before, or the move has made the call. -/
theorem Move.connecting_cases (m : Move c a c' es) {g : Nat} {cr' : Creation ρ κ ε}
    (under : c'.creations.get? g = some cr') (stage : cr'.stage = .connecting) :
    .create g cr'.request ∈ es ∨ (∀ result, a ≠ .created g result) ∧
      ∃ cr, c.creations.get? g = some cr ∧ cr.stage = .connecting ∧ cr.request = cr'.request := by
  rcases m.creation_cases under with ⟨cr, before, later, next⟩ | ⟨-, -, start | ⟨-, asked⟩, -⟩
  · rw [stage] at next
    rcases next.connecting with ⟨waits, goes⟩ | asked
    · exact .inr ⟨goes, cr, before, waits, later.request.symm⟩
    · exact .inl (later.request ▸ asked)
  · simp [stage] at start
  · exact .inl asked

/-- **The outstanding create calls** are those that a creation waits for. -/
theorem creating_iff (disposes : Bool) {inputs : List (Input ρ κ ε)} {g : Nat} {request : ρ} :
    (empty disposes).Creating inputs g request ↔
      ∃ cr, ((empty disposes : ClientCache ρ κ ε).after inputs).creations.get? g = some cr ∧
        cr.stage = .connecting ∧ cr.request = request := by
  induction inputs using List.reverseRecOn with
  | nil => exact ⟨fun owed => absurd owed not_owed_nil, fun ⟨_, under, _⟩ => by cases under⟩
  | append_singleton l i ih =>
    have sound := sound_after (ρ := ρ) (κ := κ) (ε := ε) disposes l
    obtain ⟨jobs, move⟩ := exists_move sound i
    rw [Creating, owed_concat_iff, ← Creating, ih, after_concat]
    constructor
    · rintro (asked | ⟨⟨cr, under, stage, rfl⟩, goes⟩)
      · exact move.create_cases asked
      · exact move.connecting_stays (sound.withJobs jobs) under stage fun result ends =>
          goes ⟨result, eq_of_occasion ends rfl⟩
    · rintro ⟨cr', under', stage', rfl⟩
      rcases move.connecting_cases under' stage' with asked | ⟨goes, before⟩
      · exact .inl asked
      · refine .inr ⟨before, ?_⟩
        rintro ⟨result, rfl⟩
        exact goes result rfl

omit [DecidableEq κ] in
/-- Every release that a sweep starts asks for a dispose call, where there is a hook. -/
theorem exists_dispose_sweepEffects {clients : List κ} (hook : c.disposes = true) {r : Nat}
    (new : c.releases ≤ r ∧ r < c.releases + clients.length) :
    ∃ x, .dispose r x ∈ (c.sweepEffects clients : List (Effect ρ κ ε)) := by
  obtain ⟨k, rfl⟩ := Nat.exists_eq_add_of_le new.1
  have within : k < clients.length := by omega
  refine ⟨clients[k], ?_⟩
  rw [sweepEffects, if_pos hook, List.mem_map]
  exact ⟨(clients[k], c.releases + k),
    List.mk_add_mem_zipIdx_iff_getElem?.2 (List.getElem?_eq_getElem within), rfl⟩

/-- A release that is outstanding after a move was so before and does not end, or the move has started it. -/
theorem Move.owner_cases (m : Move c a c' es) {r : Nat} {o : Owner} (owned : c'.owners.get? r = some o) :
    (c.owners.get? r = some o ∧ ∀ result, a ≠ .released r result) ∨
      (c.disposes = true → ∃ x, .dispose r x ∈ es) := by
  cases m with
  | @restarted _ _ _ e =>
    rw [Table.get?_insert] at owned
    split at owned
    · subst r
      refine .inr fun hook => ⟨e.client, List.mem_cons_of_mem _ ?_⟩
      exact dispose_mem_releaseEffects.2 ⟨hook, rfl, rfl⟩
    · exact .inl ⟨owned, by simp⟩
  | replacing =>
    rw [Table.get?_insert] at owned
    split at owned
    · subst r
      exact .inr fun hook => ⟨_, dispose_mem_releaseEffects.2 ⟨hook, rfl, rfl⟩⟩
    · exact .inl ⟨owned, by simp⟩
  | evicted =>
    rw [get?_sweepOwners] at owned
    split at owned
    · next new => exact .inr fun hook => exists_dispose_sweepEffects hook new
    · exact .inl ⟨owned, by simp⟩
  | swept =>
    rw [get?_sweepOwners] at owned
    split at owned
    · next new =>
      refine .inr fun hook => ?_
      obtain ⟨x, asked⟩ := exists_dispose_sweepEffects hook new
      exact ⟨x, List.mem_append_right _ asked⟩
    · exact .inl ⟨owned, by simp⟩
  -- the end of a release
  | connected | replaced | aborted | noted | forgotten =>
    rw [Table.get?_erase] at owned
    split at owned
    · simp at owned
    · next other =>
      exact .inl ⟨owned, fun result same => other (Action.released.inj same).1.symm⟩
  | idle nothing =>
    refine .inl ⟨owned, ?_⟩
    rintro result rfl
    simp [owned] at nothing
  | _ => exact .inl ⟨owned, by simp⟩

/-- **The outstanding dispose calls** are the outstanding releases, where there is a dispose hook. -/
theorem exists_disposing_iff (disposes : Bool) {inputs : List (Input ρ κ ε)} {r : Nat} :
    (∃ x, (empty disposes).Disposing inputs r x) ↔ disposes = true ∧
      ∃ o, ((empty disposes : ClientCache ρ κ ε).after inputs).owners.get? r = some o := by
  constructor
  · rintro ⟨x, disposing⟩
    exact disposing.owned
  · rintro ⟨hook, o, owned⟩
    induction inputs using List.reverseRecOn generalizing o with
    | nil => cases owned
    | append_singleton l i ih =>
      have sound := sound_after (ρ := ρ) (κ := κ) (ε := ε) disposes l
      obtain ⟨jobs, move⟩ := exists_move sound i
      rw [after_concat] at owned
      simp only [disposing_iff_owed, owed_concat_iff] at ih ⊢
      rcases move.owner_cases owned with ⟨before, goes⟩ | fresh
      · obtain ⟨x, owed⟩ := ih o before
        refine ⟨x, .inr ⟨owed, ?_⟩⟩
        rintro ⟨result, rfl⟩
        exact goes result rfl
      · obtain ⟨x, asked⟩ := fresh ((disposes_after disposes l).trans hook)
        exact ⟨x, .inl asked⟩

/-! ## Quiet caches -/

/-- **A quiet cache**, after some inputs: all continuations have run, and no create call and no dispose call is
outstanding. -/
structure Quiet (c : ClientCache ρ κ ε) (inputs : List (Input ρ κ ε)) : Prop where
  /-- All continuations have run. -/
  ran : (c.after inputs).jobs = []
  /-- No create call is outstanding. -/
  created : ∀ g request, ¬ c.Creating inputs g request
  /-- No dispose call is outstanding. -/
  disposed : ∀ r x, ¬ c.Disposing inputs r x

/-- Nobody waits in a quiet cache. -/
structure Idle (c : ClientCache ρ κ ε) : Prop where
  /-- No creation is under way. -/
  creations : c.creations = ∅
  /-- No release is outstanding. -/
  owners : c.owners = ∅
  /-- No call sweeps. -/
  sweeps : c.sweeps = ∅
  /-- No call waits to sweep. -/
  waiting : c.waiting = ∅
  /-- No flight is left. -/
  flights : c.flights = ∅

omit [DecidableEq κ] in
/-- Where no release is outstanding and no create call is, nobody waits once all continuations have run. -/
theorem Orderly.idle (h : c.Orderly) (ran : c.jobs = [])
    (created : ∀ g cr, c.creations.get? g = some cr → cr.stage ≠ .connecting)
    (released : c.owners = ∅) : c.Idle := by
  have alone : ∀ g, ¬ c.AwaitsOutside g := by
    rintro g (⟨r, owned⟩ | ⟨cr, under, stage⟩)
    · rw [released] at owned
      cases owned
    · exact created g cr under stage
  have none : ∀ g, c.creations.get? g = none := fun g =>
    Option.eq_none_iff_forall_ne_some.2 fun cr under => alone g (Live.creation_unstuck h.live ran under)
  refine ⟨Table.eq_empty_of_get? none, released, Table.eq_empty_of_get? fun n => ?_,
    Table.eq_empty_of_get? fun n => ?_, Table.eq_empty_of_get? fun key => ?_⟩
  · refine Option.eq_none_iff_forall_ne_some.2 fun s sweeping => ?_
    obtain ⟨r, owned⟩ := Live.sweep_unstuck h.live ran sweeping
    rw [released] at owned
    cases owned
  · refine Option.eq_none_iff_forall_ne_some.2 fun w waits => ?_
    obtain ⟨g, -, outside⟩ := Live.waiting_unstuck h.live ran waits
    exact alone g outside
  · refine Option.eq_none_iff_forall_ne_some.2 fun f flight => ?_
    obtain ⟨cr, under, -⟩ := h.sound.flight_creation key f flight
    simp [none] at under

/-- **Nobody waits in a quiet cache.** -/
theorem Quiet.idle {disposes : Bool} {inputs : List (Input ρ κ ε)}
    (h : (empty disposes).Quiet inputs) : ((empty disposes).after inputs).Idle := by
  have orderly := orderly_after (ρ := ρ) (κ := κ) (ε := ε) disposes inputs
  refine orderly.idle h.ran (fun g cr under stage => ?_) (Table.eq_empty_of_get? fun r => ?_)
  · exact h.created g cr.request ((creating_iff disposes).2 ⟨cr, under, stage, rfl⟩)
  · refine Option.eq_none_iff_forall_ne_some.2 fun o owned => ?_
    cases hook : disposes with
    | true =>
      obtain ⟨x, disposing⟩ := (exists_disposing_iff disposes).2 ⟨hook, o, owned⟩
      exact h.disposed r x disposing
    | false =>
      -- without a hook the release would be about to end
      have soon := orderly.live.hookless_ends r o ((disposes_after disposes inputs).trans hook) owned
      simp [h.ran] at soon

/-- **Quiet caches are those in which nothing is under way.** -/
theorem quiet_iff (disposes : Bool) {inputs : List (Input ρ κ ε)} : (empty disposes).Quiet inputs ↔
    ((empty disposes : ClientCache ρ κ ε).after inputs).jobs = [] ∧
      ((empty disposes : ClientCache ρ κ ε).after inputs).creations = ∅ ∧
      ((empty disposes : ClientCache ρ κ ε).after inputs).owners = ∅ := by
  constructor
  · exact fun quiet => ⟨quiet.ran, quiet.idle.creations, quiet.idle.owners⟩
  · rintro ⟨ran, creations, owners⟩
    refine ⟨ran, fun g request creating => ?_, fun r x disposing => ?_⟩
    · obtain ⟨cr, under, -⟩ := (creating_iff disposes).1 creating
      rw [creations] at under
      cases under
    · obtain ⟨-, o, owned⟩ := disposing.owned
      rw [owners] at owned
      cases owned

omit [DecidableEq κ] in
/-- Nobody attends a call in an idle cache. -/
theorem Idle.not_pending (h : c.Idle) (n : Nat) : ¬ c.Pending n := by
  rintro (⟨under, -⟩ | sweeping | waits)
  · rw [h.creations] at under
    cases under
  · rw [h.sweeps] at sweeping
    cases sweeping
  · rw [h.waiting] at waits
    cases waits

/-- **Nobody is left waiting.** When all continuations have run, and no create call and no dispose call is
outstanding, every call that has been made has been answered, once, and no flight is left. -/
theorem settled_of_quiet (disposes : Bool) {inputs : List (Input ρ κ ε)}
    (quiet : (empty disposes).Quiet inputs) :
    (∀ before i rest, inputs = before ++ i :: rest → i.isCall = true →
      ∃ o, outcomesOf ((empty disposes : ClientCache ρ κ ε).after before).calls
        ((empty disposes).asked inputs) = [o]) ∧
    ((empty disposes : ClientCache ρ κ ε).after inputs).flights = ∅ := by
  refine ⟨?_, quiet.idle.flights⟩
  rintro before i rest rfl call
  have sound := sound_after (ρ := ρ) (κ := κ) (ε := ε) disposes before
  have made : ((empty disposes : ClientCache ρ κ ε).after before).calls
      < ((empty disposes).after (before ++ i :: rest)).calls := by
    rw [after_append_cons]
    exact Nat.lt_of_lt_of_le (calls_lt_of_isCall sound call) (calls_le_after (sound.step i) rest)
  rcases (served_after disposes (before ++ i :: rest) _).2 made with ⟨pending, -⟩ | ⟨-, answered⟩
  · exact absurd pending (quiet.idle.not_pending _)
  · exact answered

/-- Two creations of one key cross, the first of them fails, and so does the release of the client of the second,
while a clear call and a rotation are under way. -/
def overlapping : List (Input Unit Nat String) :=
  [.acquire "db" "old" (), .clear, .acquire "db" "new" (), .created 1 (.error "refused"), .created 2 (.ok 7),
    .resume, .resume, .evictStale "newer", .resume, .released 0 (.error "lost"), .resume, .resume]

theorem settled_of_quiet_overlapping : (empty true).Quiet overlapping ∧
    ((empty true).after overlapping).calls = 4 ∧
    ∃ o, outcomesOf 3 ((empty true).asked overlapping) = [o] := by
  have quiet : (empty true).Quiet overlapping := (quiet_iff true).2 ⟨rfl, rfl, rfl⟩
  exact ⟨quiet, rfl, (settled_of_quiet true quiet).1 (overlapping.take 7) (.evictStale "newer") _ rfl rfl⟩

end ServiceAccess.ClientCache

import ServiceAccess.Proofs.ClientCache.Handover
import ServiceAccess.Proofs.ClientCache.Settling

/-! # Creations that fail

When its create call fails, a creation is over at once, and a continuation is scheduled that takes it off and
rejects its callers. Other calls come in between, and the rejected ones may try again.

* **`exists_turn`**: continuations run in the order of the list, so that each of them has its turn.
* **`stage_after`**: what a creation keeps from stage to stage.
* **`requestsOf`**: the create calls that are made for a creation. By `requested_once` there is one at most.
* **`Ended.over`**, **`Ended.unique`**: a create call ends once, and the creation does not wait for it again.
* **`Called`**: a call that has started or joined a creation.
* **`FindsOther`**: what a call finds that is not a given creation.
* **`Traceless`**: a failed creation leaves no trace. **`traceless_of_failed`**: none does. -/

namespace ServiceAccess.ClientCache

variable {ρ κ ε : Type} [DecidableEq κ]
variable {c c' : ClientCache ρ κ ε} {a : Action ρ κ ε} {es : List (Effect ρ κ ε)}

/-! ## Continuations in turn -/

/-- How often the cache is let run a continuation. -/
def resumes (inputs : List (Input ρ κ ε)) : Nat :=
  inputs.countP fun i => match i with
    | .resume => true
    | _ => false

/-- **Each continuation has its turn**, once those before it on the list have run. -/
theorem exists_turn (sound : c.Sound) {job : Job} {before : List Job} (listed : before ++ [job] <+: c.jobs)
    {inputs : List (Input ρ κ ε)} (enough : before.length < resumes inputs) :
    ∃ l m jobs, inputs = l ++ .resume :: m ∧ (c.after l).jobs = job :: jobs := by
  induction inputs generalizing c before with
  | nil => simp [resumes] at enough
  | cons i inputs ih =>
    -- what is on the list stays there, but for the one that runs
    have later (before' : List Job) (listed' : before' ++ [job] <+: (c.occasion i).1.jobs)
        (enough' : before'.length < resumes inputs) :
        ∃ l m jobs, i :: inputs = l ++ .resume :: m ∧ (c.after l).jobs = job :: jobs := by
      have kept := Move.jobs_prefix (step_move sound i)
      obtain ⟨l, m, jobs, parts, turn⟩ := ih (sound.step i) (listed'.trans kept) enough'
      exact ⟨i :: l, m, jobs, by rw [parts]; rfl, turn⟩
    cases i with
    | resume =>
      obtain ⟨more, list⟩ := listed
      cases before with
      | nil => exact ⟨[], inputs, more, rfl, list.symm⟩
      | cons first before =>
        refine later before ?_ ?_
        · rw [occasion, ← list]
          exact List.prefix_append ..
        · simpa [resumes] using enough
    | _ => exact later before listed (by simpa [resumes] using enough)

/-- Every continuation on the list has its turn, once all of them have run. -/
theorem exists_turn_of_mem (sound : c.Sound) {job : Job} (listed : job ∈ c.jobs) {inputs : List (Input ρ κ ε)}
    (enough : c.jobs.length ≤ resumes inputs) :
    ∃ l m jobs, inputs = l ++ .resume :: m ∧ (c.after l).jobs = job :: jobs := by
  obtain ⟨before, rest, list⟩ := List.append_of_mem listed
  have first : before ++ [job] <+: c.jobs := ⟨rest, by simp [list]⟩
  exact exists_turn sound first (Nat.lt_of_lt_of_le (by simp [list]) enough)

/-! ## Stages -/

section
omit [DecidableEq κ]
variable {g : Nat} {request : ρ} {s s' : Stage κ ε}

/-- No creation starts to wait for a release before its create call. -/
theorem Stage.Next.ne_releasing (next : Next g request a es s s') (h : s ≠ .releasing) : s' ≠ .releasing := by
  cases next with
  | stays => exact h
  | _ => simp

/-- A creation waits for its create call only after a release before it. -/
theorem Stage.Next.ne_connecting (next : Next g request a es s s') (h : s ≠ .releasing)
    (h' : s ≠ .connecting) : s' ≠ .connecting := by
  cases next with
  | stays => exact h'
  | connects => exact absurd rfl h
  | _ => simp

/-- When its create call ends, a creation does not wait for one any more. -/
theorem Stage.Next.of_created {result : Except ε κ}
    (next : Next g request (.created g result) es .connecting s') : s' ≠ .releasing ∧ s' ≠ .connecting := by
  cases next with
  | stays waits => exact absurd rfl (waits rfl result)
  | _ => simp

end

/-- **What a creation keeps from stage to stage.** Its number is not used again, so that what holds of the stage of the
creation with a number in use holds of it from then on. -/
theorem stage_after (sound : c.Sound) {g : Nat} (numbered : g ≤ c.generation) {P : Stage κ ε → Prop}
    (start : ∀ cr, c.creations.get? g = some cr → P cr.stage)
    (next : ∀ {c c' : ClientCache ρ κ ε} {a es cr cr'}, c.Sound → Move c a c' es →
      c.creations.get? g = some cr → c'.creations.get? g = some cr' →
      Stage.Next g cr.request a es cr.stage cr'.stage → P cr.stage → P cr'.stage)
    (inputs : List (Input ρ κ ε)) {cr : Creation ρ κ ε}
    (under : (c.after inputs).creations.get? g = some cr) : P cr.stage := by
  refine (after_keeps (P := fun c => g ≤ c.generation ∧ ∀ cr, c.creations.get? g = some cr → P cr.stage)
    (fun _ _ h => h) ?_ sound ⟨numbered, start⟩ inputs).2 cr under
  rintro c a c' es sound move ⟨numbered, kept⟩
  refine ⟨Nat.le_trans numbered move.generation_le, fun cr' under' => ?_⟩
  rcases move.creation_cases under' with ⟨cr, under, -, stage⟩ | ⟨new, -⟩
  · exact next sound move under under' stage (kept cr under)
  · exact absurd numbered (by simp [new])

/-- A creation that is over stays over. -/
theorem finished_after (sound : c.Sound) {g : Nat} {cr cr' : Creation ρ κ ε} {outcome : Except ε κ}
    (under : c.creations.get? g = some cr) (stage : cr.stage = .finished outcome)
    {inputs : List (Input ρ κ ε)} (under' : (c.after inputs).creations.get? g = some cr') :
    cr'.stage = .finished outcome := by
  refine stage_after sound (sound.creation_le g cr under) (P := fun s => s = .finished outcome) ?_ ?_ inputs under'
  · intro cr₁ under₁
    obtain rfl := Option.some.inj (under.symm.trans under₁)
    exact stage
  · intro c c' a es cr cr' sound move under under' _ ended
    exact (move.finished_stays sound under ended under').2.2

/-- A creation that has been taken off does not come back. -/
theorem gone_after (sound : c.Sound) {g : Nat} (numbered : g ≤ c.generation)
    (gone : c.creations.get? g = none) (inputs : List (Input ρ κ ε)) :
    (c.after inputs).creations.get? g = none := by
  refine Option.eq_none_iff_forall_ne_some.2 fun cr under => ?_
  refine stage_after sound numbered (P := fun _ => False) ?_ (fun _ _ _ _ _ h => h) inputs under
  intro cr' under'
  simp [gone] at under'

/-! ## Create calls -/

/-- The request that an effect makes the create call of a creation with. -/
def Effect.requestOf? (g : Nat) : Effect ρ κ ε → Option ρ
  | .create h request => if h = g then some request else none
  | _ => none

/-- **The create calls that are made for a creation**, in order, each by its request. -/
def requestsOf (g : Nat) (es : List (Effect ρ κ ε)) : List ρ := es.filterMap (Effect.requestOf? g)

omit [DecidableEq κ] in
theorem requestsOf_append (g : Nat) (es fs : List (Effect ρ κ ε)) :
    requestsOf g (es ++ fs) = requestsOf g es ++ requestsOf g fs :=
  List.filterMap_append ..

omit [DecidableEq κ] in
/-- The requests are those of the create calls. -/
theorem mem_requestsOf {g : Nat} {request : ρ} {es : List (Effect ρ κ ε)} :
    request ∈ requestsOf g es ↔ .create g request ∈ es := by
  simp only [requestsOf, List.mem_filterMap]
  constructor
  · rintro ⟨e, here, same⟩
    cases e <;> simp_all [Effect.requestOf?]
  · exact fun here => ⟨_, here, by simp [Effect.requestOf?]⟩

/-- A move makes one create call at most, for a creation that is new or has waited for a release. -/
theorem Move.requestsOf_cases (m : Move c a c' es) (g : Nat) : requestsOf g es = [] ∨
    ∃ cr', c'.creations.get? g = some cr' ∧ cr'.stage = .connecting ∧ requestsOf g es = [cr'.request] ∧
      (c.generation < g ∨ ∃ cr, c.creations.get? g = some cr ∧ cr.stage = .releasing) := by
  by_cases none : requestsOf g es = []
  · exact .inl none
  obtain ⟨request, here⟩ := List.exists_mem_of_ne_nil _ none
  rw [mem_requestsOf] at here
  obtain ⟨cr', under', stage', -⟩ := m.create_cases here
  refine .inr ⟨cr', under', stage', ?_⟩
  cases m with
  | @started key fp request =>
    obtain rfl : g = c.generation + 1 := by simp_all
    obtain rfl := Option.some.inj ((Table.get?_insert_self ..).symm.trans under')
    refine ⟨?_, .inl (Nat.lt_succ_self _)⟩
    simp [requestsOf, List.filterMap_cons, Effect.requestOf?]
  | @connected n h cr owned under stage =>
    obtain rfl : g = h := by simp_all
    obtain rfl := Option.some.inj ((Table.get?_insert_self ..).symm.trans under')
    refine ⟨?_, .inr ⟨cr, under, stage⟩⟩
    simp [requestsOf, List.filterMap_cons, Effect.requestOf?]
  | restarted | replacing =>
    simp only [releaseEffects] at here
    split at here <;> simp at here
  | evicted =>
    simp only [sweepEffects] at here
    split at here <;> simp at here
  | swept =>
    simp only [sweepEffects] at here
    split at here <;> split at here <;> simp at here
  | _ => simp at here

/-- **One create call is made for a creation at most**, with its request: there has been none and it does not wait
for one, or there has been one and it does not wait for a release before it any more. -/
theorem requested_once (disposes : Bool) (inputs : List (Input ρ κ ε)) (g : Nat) :
    (requestsOf g ((empty disposes).asked inputs) = [] ∧
      ∀ cr, ((empty disposes).after inputs).creations.get? g = some cr → cr.stage ≠ .connecting) ∨
    ∃ request, requestsOf g ((empty disposes).asked inputs) = [request] ∧
      g ≤ ((empty disposes).after inputs).generation ∧
      ∀ cr, ((empty disposes).after inputs).creations.get? g = some cr →
        cr.stage ≠ .releasing ∧ cr.request = request := by
  induction inputs using List.reverseRecOn with
  | nil => exact .inl ⟨rfl, fun cr under => by cases under⟩
  | append_singleton l i ih =>
    obtain ⟨jobs, move⟩ := exists_move (sound_after disposes l) i
    have sound' := sound_after (ρ := ρ) (κ := κ) (ε := ε) disposes (l ++ [i])
    rw [after_concat] at sound'
    rw [after_concat, asked_concat, requestsOf_append]
    rcases ih with ⟨none, waits⟩ | ⟨request, one, numbered, past⟩
    · rw [none, List.nil_append]
      rcases move.requestsOf_cases g with no | ⟨cr', under', stage', now, -⟩
      · refine .inl ⟨no, fun cr' under' stage' => ?_⟩
        rcases move.connecting_cases under' stage' with asked | ⟨-, cr, under, stage, -⟩
        · rw [← mem_requestsOf, no] at asked
          simp at asked
        · exact waits cr under stage
      · refine .inr ⟨cr'.request, now, sound'.creation_le g cr' under', fun cr under => ?_⟩
        obtain rfl := Option.some.inj (under'.symm.trans under)
        simp [stage']
    · rcases move.requestsOf_cases g with no | ⟨-, -, -, -, new | ⟨cr, under, stage⟩⟩
      · refine .inr ⟨request, by rw [one, no]; rfl, Nat.le_trans numbered move.generation_le, ?_⟩
        intro cr' under'
        rcases move.creation_cases under' with ⟨cr, under, later, next⟩ | ⟨new, -⟩
        · obtain ⟨unreleasing, same⟩ := past cr under
          exact ⟨next.ne_releasing unreleasing, later.request.trans same⟩
        · exact absurd numbered (by simp [new])
      · exact absurd numbered (Nat.not_le.2 new)
      · exact absurd stage (past cr under).1

/-- **A call starts a creation**: the creation is the next one, and the call is its only caller. -/
def Starts (c : ClientCache ρ κ ε) (key fp : String) (request : ρ) (g : Nat) : Prop :=
  g = c.generation + 1 ∧ ∃ stage, (c.step (.acquire key fp request)).1.creations.get? g
    = some ⟨key, fp, request, stage, [c.calls]⟩

/-- A creation was started by a call with its key, fingerprint and request. -/
theorem begun_after (disposes : Bool) {inputs : List (Input ρ κ ε)} {g : Nat} {cr : Creation ρ κ ε}
    (under : ((empty disposes).after inputs).creations.get? g = some cr) :
    ∃ l m, inputs = l ++ .acquire cr.key cr.fingerprint cr.request :: m ∧
      ((empty disposes).after l).Starts cr.key cr.fingerprint cr.request g := by
  induction inputs using List.reverseRecOn generalizing cr with
  | nil => cases under
  | append_singleton l i ih =>
    have sound := sound_after (ρ := ρ) (κ := κ) (ε := ε) disposes l
    obtain ⟨jobs, move⟩ := exists_move sound i
    rw [after_concat] at under
    rcases move.creation_cases under with ⟨cr₀, under₀, later, -⟩ | ⟨new, call, -⟩
    · obtain ⟨l₀, m, rfl, starts⟩ := ih under₀
      rw [later.key, later.fingerprint, later.request]
      exact ⟨l₀, m ++ [i], by simp, starts⟩
    · obtain rfl := eq_of_occasion call rfl
      refine ⟨l, [], rfl, new, cr.stage, under.trans ?_⟩
      rcases move.caller_cases under with ⟨cr₀, under₀, -⟩ | ⟨alone, -⟩
      · -- the next number is not in use
        exact absurd (sound.creation_le g cr₀ under₀) (by simp [new])
      · rw [← alone]

/-- One create call has been made for a creation that waits for it or has waited for it. -/
theorem requestsOf_of_connecting (disposes : Bool) {l inputs : List (Input ρ κ ε)} {g : Nat}
    {cr : Creation ρ κ ε} (under : ((empty disposes).after l).creations.get? g = some cr)
    (stage : cr.stage = .connecting) (part : l <+: inputs) :
    requestsOf g ((empty disposes).asked inputs) = [cr.request] := by
  rcases requested_once disposes l g with ⟨-, waits⟩ | ⟨request, one, -, past⟩
  · exact absurd stage (waits cr under)
  · obtain ⟨m, rfl⟩ := part
    rcases requested_once disposes (l ++ m) g with ⟨none, -⟩ | ⟨request', one', -⟩
    · rw [asked_append, requestsOf_append, one] at none
      simp at none
    · have first := one'
      rw [asked_append, requestsOf_append, one] at first
      rw [one', (past cr under).2, (List.cons.inj first).1]

/-- A creation is for the same throughout a run. -/
theorem creation_eq (disposes : Bool) {l l' inputs : List (Input ρ κ ε)} (part : l <+: inputs)
    (part' : l' <+: inputs) {g : Nat} {cr cr' : Creation ρ κ ε}
    (under : ((empty disposes).after l).creations.get? g = some cr)
    (under' : ((empty disposes).after l').creations.get? g = some cr') :
    cr.key = cr'.key ∧ cr.fingerprint = cr'.fingerprint ∧ cr.request = cr'.request := by
  have sound := sound_after (ρ := ρ) (κ := κ) (ε := ε) disposes
  rcases List.prefix_or_prefix_of_prefix part part' with ⟨m, rfl⟩ | ⟨m, rfl⟩
  · rw [after_append] at under'
    have later := Creation.Continues.after (sound l) under under'
    exact ⟨later.key.symm, later.fingerprint.symm, later.request.symm⟩
  · rw [after_append] at under
    have later := Creation.Continues.after (sound l') under' under
    exact ⟨later.key, later.fingerprint, later.request⟩

/-- A creation keeps its key throughout a run. -/
theorem key_eq (disposes : Bool) {l l' inputs : List (Input ρ κ ε)} (part : l <+: inputs)
    (part' : l' <+: inputs) {g : Nat} {cr cr' : Creation ρ κ ε}
    (under : ((empty disposes).after l).creations.get? g = some cr)
    (under' : ((empty disposes).after l').creations.get? g = some cr') : cr.key = cr'.key :=
  (creation_eq disposes part part' under under').1

/-! ## Ends of create calls -/

section
variable {disposes : Bool} {inputs : List (Input ρ κ ε)} {g : Nat}

/-- A creation whose create call has ended does not wait for it again. -/
theorem Ended.over {result : Except ε κ} (ended : (empty disposes).Ended inputs g result)
    {cr : Creation ρ κ ε} (under : ((empty disposes).after inputs).creations.get? g = some cr) :
    cr.stage ≠ .connecting := by
  obtain ⟨l, cr₀, ⟨m, rfl⟩, under₀, stage₀⟩ := ended
  rw [after_append, after_concat] at under
  have sound := sound_after (ρ := ρ) (κ := κ) (ε := ε) disposes l
  have move := step_move sound (.created g result)
  have numbered := Nat.le_trans (sound.creation_le g cr₀ under₀) move.generation_le
  -- what has left the stages before the end does not come back to them
  refine (stage_after (sound.step (.created g result)) numbered
    (P := fun s => s ≠ .releasing ∧ s ≠ .connecting) ?_ ?_ m under).2
  · intro cr' under'
    rcases move.creation_cases under' with ⟨cr₁, under₁, -, next⟩ | ⟨-, call, -⟩
    · obtain rfl := Option.some.inj (under₀.symm.trans under₁)
      rw [stage₀] at next
      exact next.of_created
    · cases call
  · intro _ _ _ _ _ _ _ _ _ _ next past
    exact ⟨next.ne_releasing past.1, next.ne_connecting past.1 past.2⟩

/-- A creation whose create call has ended has a number. -/
theorem Ended.numbered {result : Except ε κ} (ended : (empty disposes).Ended inputs g result) :
    g ≤ ((empty disposes).after inputs).generation := by
  obtain ⟨l, cr, ⟨m, rfl⟩, under, -⟩ := ended
  have sound := sound_after (ρ := ρ) (κ := κ) (ε := ε) disposes l
  rw [List.append_assoc, after_append]
  exact Nat.le_trans (sound.creation_le g cr under) (generation_le_after sound _)

/-- **A create call ends once.** -/
theorem Ended.unique {result result' : Except ε κ} (ended : (empty disposes).Ended inputs g result)
    (ended' : (empty disposes).Ended inputs g result') : result = result' := by
  -- after the earlier end, the creation would still wait for the later one
  have apart {l l' : List (Input ρ κ ε)} {r r' : Except ε κ} {cr cr' : Creation ρ κ ε}
      (under : ((empty disposes).after l).creations.get? g = some cr) (stage : cr.stage = .connecting)
      (under' : ((empty disposes).after l').creations.get? g = some cr') (stage' : cr'.stage = .connecting)
      (part : l ++ [.created g r] <+: l' ++ [.created g r']) : r = r' := by
    rcases List.prefix_concat_iff.1 part with same | before
    · simpa using (List.append_inj' same rfl).2
    · exact absurd stage' (Ended.over ⟨l, cr, before, under, stage⟩ under')
  obtain ⟨l, cr, part, under, stage⟩ := ended
  obtain ⟨l', cr', part', under', stage'⟩ := ended'
  rcases List.prefix_or_prefix_of_prefix part part' with before | before
  · exact apart under stage under' stage' before
  · exact (apart under' stage' under stage before).symm

/-- A creation whose create call has failed is over. -/
theorem Ended.failed {e : ε} (ended : (empty disposes).Ended inputs g (.error e)) {cr : Creation ρ κ ε}
    (under : ((empty disposes).after inputs).creations.get? g = some cr) :
    cr.stage = .finished (.error e) := by
  obtain ⟨l, cr₀, ⟨m, rfl⟩, under₀, stage₀⟩ := ended
  have sound := sound_after (ρ := ρ) (κ := κ) (ε := ε) disposes l
  have move := step_move sound (.created g (.error e))
  rw [after_append, after_concat] at under
  generalize next : (((empty disposes).after l).step (.created g (.error e))).1 = c' at move under
  generalize asked : (((empty disposes).after l).step (.created g (.error e))).2 = es at move
  have sound' : c'.Sound := next ▸ sound.step _
  cases move with
  | failed under₁ => exact finished_after sound' (Table.get?_insert_self ..) rfl under
  | idle nothing => exact absurd stage₀ (nothing cr₀ under₀)

/-- What a creation is over with is the failure of its create call, if that has failed. -/
theorem Ended.outcome {e : ε} (ended : (empty disposes).Ended inputs g (.error e)) {l : List (Input ρ κ ε)}
    (part : l <+: inputs) {cr : Creation ρ κ ε} {outcome : Except ε κ}
    (under : ((empty disposes).after l).creations.get? g = some cr) (stage : cr.stage = .finished outcome) :
    outcome = .error e := by
  obtain ⟨l₀, cr₀, part₀, under₀, stage₀⟩ := ended
  have known (before : l₀ ++ [.created g (.error e)] <+: l) : outcome = .error e := by
    have failed := Ended.failed ⟨l₀, cr₀, before, under₀, stage₀⟩ under
    simpa using stage.symm.trans failed
  rcases List.prefix_or_prefix_of_prefix part part₀ with before | after
  · rcases List.prefix_concat_iff.1 before with same | ⟨m, rfl⟩
    · exact known (same ▸ List.prefix_refl _)
    · -- it has been over before its create call ends
      rw [after_append] at under₀
      have still := finished_after (sound_after disposes l) under stage under₀
      simp [stage₀] at still
  · exact known after

end

/-! ## Callers -/

/-- **A call has started or joined a creation**: it has come to be one of its callers. -/
def Called (c : ClientCache ρ κ ε) (inputs : List (Input ρ κ ε)) (n g : Nat) : Prop :=
  ∃ l cr, l <+: inputs ∧ (c.after l).creations.get? g = some cr ∧ n ∈ cr.callers

section
variable {disposes : Bool} {inputs : List (Input ρ κ ε)} {g : Nat}

/-- A caller of a creation that is still there has no outcome. -/
theorem Called.unanswered {n : Nat} (called : (empty disposes).Called inputs n g) {cr : Creation ρ κ ε}
    (under : ((empty disposes).after inputs).creations.get? g = some cr) :
    n ∈ cr.callers ∧ outcomesOf n ((empty disposes).asked inputs) = [] := by
  obtain ⟨l, cr₀, ⟨m, rfl⟩, under₀, caller⟩ := called
  have sound := sound_after (ρ := ρ) (κ := κ) (ε := ε) disposes
  have attended := attended_after (ρ := ρ) (κ := κ) (ε := ε) disposes (l ++ m)
  have still : n ∈ cr.callers := by
    rw [after_append] at under
    exact (Creation.Continues.after (sound l) under₀ under).callers.subset caller
  refine ⟨still, ?_⟩
  have made := attended.caller_lt g cr n under still
  rcases (served_after disposes (l ++ m) n).2 made with ⟨-, none⟩ | ⟨retired, -⟩
  · exact none
  · exact absurd still (retired.uncalled g cr under)

/-- **Who has called for a creation that fails is rejected with the failure**, once, when the creation is taken
off. -/
theorem Called.rejected {n : Nat} (called : (empty disposes).Called inputs n g) {e : ε}
    (ended : (empty disposes).Ended inputs g (.error e))
    (gone : ((empty disposes).after inputs).creations.get? g = none) :
    outcomesOf n ((empty disposes).asked inputs) = [.error e] := by
  obtain ⟨l, cr, ⟨m, rfl⟩, under, caller⟩ := called
  have sound := sound_after (ρ := ρ) (κ := κ) (ε := ε) disposes l
  have attended := attended_after (ρ := ρ) (κ := κ) (ε := ε) disposes l
  have before : outcomesOf n ((empty disposes).asked l) = [] :=
    (Called.unanswered ⟨l, cr, List.prefix_refl _, under, caller⟩ under).2
  rw [asked_append, outcomesOf_append, before, List.nil_append]
  rw [after_append] at gone
  rcases settlesWith_of_caller sound attended under caller m with
      ⟨cr', under', -⟩ | ⟨earlier, cr', outcome, part, under', stage', one⟩
  · simp [gone] at under'
  · rw [← after_append] at under'
    obtain rfl := ended.outcome ((List.prefix_append_right_inj l).2 part) under' stage'
    exact one

/-- A creation that has failed is taken off as soon as the continuations on the list have run. -/
theorem Ended.gone {e : ε} (ended : (empty disposes).Ended inputs g (.error e)) {m : List (Input ρ κ ε)}
    (enough : ((empty disposes).after inputs).jobs.length ≤ resumes m) :
    ((empty disposes).after (inputs ++ m)).creations.get? g = none := by
  have orderly := orderly_after (ρ := ρ) (κ := κ) (ε := ε) disposes inputs
  have numbered := ended.numbered
  rw [after_append]
  cases under : ((empty disposes).after inputs).creations.get? g with
  | none => exact gone_after orderly.sound numbered under m
  | some cr =>
    have soon := (orderly.live.finished_answers g cr _ under (ended.failed under)).resolve_right (by simp)
    obtain ⟨l, m, jobs, rfl, turn⟩ := exists_turn_of_mem orderly.sound soon enough
    -- when the continuation has its turn, it takes the creation off
    have sound := orderly.sound.after l
    have numbered' := Nat.le_trans numbered (generation_le_after orderly.sound l)
    rw [after_append_cons]
    refine gone_after (sound.step .resume) ?_ ?_ m
    · exact Nat.le_trans numbered' (generation_le_after sound [.resume])
    · have move := step_move sound .resume
      rw [occasion, turn] at move
      generalize (((empty disposes).after inputs).after l |>.step .resume).1 = c' at move ⊢
      generalize (((empty disposes).after inputs).after l |>.step .resume).2 = es at move
      cases move with
      | answered => rw [Table.get?_erase, if_pos rfl]
      | idle nothing =>
        refine Option.eq_none_iff_forall_ne_some.2 fun cr' under' => nothing cr' (.error e) under' ?_
        exact finished_after orderly.sound under (ended.failed under) under'

/-- A stored client is not that of a creation that has failed. -/
theorem Ended.unstored {e : ε} (ended : (empty disposes).Ended inputs g (.error e)) {key : String}
    {entry : Entry κ} (stored : ((empty disposes).after inputs).entries.get? key = some entry) :
    entry.generation ≠ g := by
  rintro rfl
  have made := (traced_after disposes inputs).stored key entry stored
  simpa using ended.unique made

/-- A client that is set aside is not that of a creation that has failed. -/
theorem Ended.unset {e : ε} (ended : (empty disposes).Ended inputs g (.error e)) {x : κ}
    (aside : x ∈ ((empty disposes).after inputs).detached) :
    ∃ h, h ≠ g ∧ (empty disposes).Made inputs h x := by
  obtain ⟨-, h, made, -⟩ := (traced_after disposes inputs).aside x aside
  refine ⟨h, ?_, made⟩
  rintro rfl
  simpa using ended.unique made

/-- A creation that has failed and been taken off is spent. -/
theorem Ended.spent {e : ε} (ended : (empty disposes).Ended inputs g (.error e))
    (gone : ((empty disposes).after inputs).creations.get? g = none) :
    ((empty disposes).after inputs).Spent g := by
  refine ⟨ended.numbered, fun cr under => ?_, fun key entry => ended.unstored, ?_⟩
  · simp [gone] at under
  · rintro key f flight rfl
    obtain ⟨cr, under, -⟩ := (sound_after disposes inputs).flight_creation key f flight
    simp [gone] at under

end

/-- The flights of the key of a creation are no earlier than it, from then on. -/
theorem flight_ge_after (sound : c.Sound) (latest : c.Latest) {g : Nat} {cr : Creation ρ κ ε}
    (under : c.creations.get? g = some cr) (inputs : List (Input ρ κ ε)) {f : Flight}
    (flight : (c.after inputs).flights.get? cr.key = some f) : g ≤ f.generation := by
  refine (after_keeps (P := fun c => g ≤ c.generation ∧ ∀ f, c.flights.get? cr.key = some f →
    g ≤ f.generation) (fun _ _ h => h) ?_ sound
    ⟨sound.creation_le g cr under, fun f => latest.creation_le g cr f under⟩ inputs).2 f flight
  rintro c a c' es - move ⟨numbered, newer⟩
  refine ⟨Nat.le_trans numbered move.generation_le, fun f flight => ?_⟩
  rcases move.flight_cases flight with ⟨new, -⟩ | ⟨before, -⟩
  · exact new ▸ Nat.le_succ_of_le numbered
  · exact newer f before

/-! ## Another try -/

/-- **A call finds something else than a creation**: it is answered with a stored client of another one, or joins a
later one, or starts one. -/
inductive FindsOther (c : ClientCache ρ κ ε) (key fp : String) (request : ρ) (g : Nat) : Prop
  /-- It is answered with a stored client of another creation. -/
  | stored {entry : Entry κ} (stored : c.entries.get? key = some entry) (same : entry.fingerprint = fp)
      (other : entry.generation ≠ g)
      (answered : outcomesOf c.calls (c.step (.acquire key fp request)).2
        = [.ok (.client entry.client)])
  /-- It joins a later flight. -/
  | joined {h : Nat} {cr : Creation ρ κ ε} (flight : c.flights.get? key = some ⟨fp, h⟩) (later : g < h)
      (under : (c.step (.acquire key fp request)).1.creations.get? h = some cr)
      (caller : c.calls ∈ cr.callers)
  /-- It starts a creation. -/
  | started {h : Nat} {cr : Creation ρ κ ε} (new : c.generation < h) (later : g < h)
      (under : (c.step (.acquire key fp request)).1.creations.get? h = some cr)
      (caller : cr.callers = [c.calls])

/-- Where a creation is spent, and the flights of a key are later, a call finds something else. -/
theorem Spent.findsOther {g : Nat} (h : c.Spent g) (sound : c.Sound) {key : String}
    (newer : ∀ f, c.flights.get? key = some f → g ≤ f.generation) (fp : String) (request : ρ) :
    c.FindsOther key fp request g := by
  have move : Move c (.acquire key fp request) (c.step (.acquire key fp request)).1
      (c.step (.acquire key fp request)).2 := step_move sound (.acquire key fp request)
  generalize next : (c.step (.acquire key fp request)).1 = c' at move
  generalize asked : (c.step (.acquire key fp request)).2 = es at move
  cases move with
  | @hit _ _ _ entry stored same =>
    refine .stored stored same (h.unstored key entry stored) ?_
    rw [asked]
    simp [outcomesOf, List.filterMap_cons, Effect.outcomeOf?]
  | joined unusable flight under =>
    refine .joined flight (Nat.lt_of_le_of_ne (newer _ flight) (h.unlisted key _ flight).symm)
      (by rw [next]; exact Table.get?_insert_self ..) ?_
    simp
  | started | restarted =>
    exact .started (Nat.lt_succ_self _) (Nat.lt_succ_of_le h.numbered)
      (by rw [next]; exact Table.get?_insert_self ..) rfl
  | idle nothing => exact nothing.elim

/-! ## No trace -/

/-- **Two states of a cache differ in one creation at most**: they hold the same clients, and the same flights, but
that the flight of a key may be gone where it is the creation. -/
structure SparesOthers (key : String) (g : Nat) (c c' : ClientCache ρ κ ε) : Prop where
  /-- The stored clients are the same. -/
  entries : c'.entries = c.entries
  /-- The clients set aside are the same. -/
  detached : c'.detached = c.detached
  /-- The flights are the same, but for the creation. -/
  flights : ∀ k, c'.flights.get? k = c.flights.get? k ∨
    k = key ∧ c'.flights.get? k = none ∧ ∃ f, c.flights.get? k = some f ∧ f.generation = g

/-- **A failed creation leaves no trace.** This is said of the state after some inputs of a run. -/
structure Traceless (c : ClientCache ρ κ ε) (inputs : List (Input ρ κ ε)) (key : String) (request : ρ)
    (g : Nat) (e : ε) : Prop where
  /-- One create call has been made for it. -/
  requested : requestsOf g (c.asked inputs) = [request]
  /-- Who has started or joined it is about to be rejected, or has been rejected with its failure, once. -/
  rejected : ∀ n, c.Called inputs n g →
    (.answer g ∈ (c.after inputs).jobs ∧ outcomesOf n (c.asked inputs) = []) ∨
      outcomesOf n (c.asked inputs) = [.error e]
  /-- All of them are rejected once the continuations on the list have run. -/
  turn : ∀ m, (c.after inputs).jobs.length ≤ resumes m → ∀ n, c.Called (inputs ++ m) n g →
    outcomesOf n (c.asked (inputs ++ m)) = [.error e]
  /-- No stored client is from it. -/
  unstored : ∀ k entry, (c.after inputs).entries.get? k = some entry → entry.generation ≠ g
  /-- All clients that are set aside are from others. -/
  unset : ∀ x ∈ (c.after inputs).detached, ∃ h, h ≠ g ∧ c.Made inputs h x
  /-- Its failure spares all clients and all other flights. -/
  failure : ∀ l m, inputs = l ++ .created g (.error e) :: m →
    SparesOthers key g (c.after l) ((c.after l).step (.created g (.error e))).1
  /-- So does the rejection of its callers. -/
  rejection : ∀ l m jobs, inputs = l ++ .resume :: m → (c.after l).jobs = .answer g :: jobs →
    SparesOthers key g (c.after l) ((c.after l).step .resume).1
  /-- Once one of its callers has been rejected, a call for its key finds something else. -/
  retried : ∀ n, c.Called inputs n g → outcomesOf n (c.asked inputs) ≠ [] →
    ∀ fp request', (c.after inputs).FindsOther key fp request' g

omit [DecidableEq κ] in
theorem SparesOthers.refl (key : String) (g : Nat) (c : ClientCache ρ κ ε) : SparesOthers key g c c :=
  ⟨rfl, rfl, fun _ => .inl rfl⟩

/-- The failure of a create call spares everything else. -/
theorem Move.failure_spares {g : Nat} {e : ε} (m : Move c (.created g (.error e)) c' es) (key : String) :
    SparesOthers key g c c' := by
  cases m with
  | failed => exact ⟨rfl, rfl, fun _ => .inl rfl⟩
  | idle => exact .refl key g c

/-- The rejection of callers spares everything else. -/
theorem Move.rejection_spares {g : Nat} (m : Move c (.answer g) c' es) {key : String}
    (for_key : ∀ cr, c.creations.get? g = some cr → cr.key = key) : SparesOthers key g c c' := by
  cases m with
  | @answered _ outcome cr under stage =>
    obtain rfl := for_key cr under
    refine ⟨rfl, rfl, fun k => ?_⟩
    rw [Table.get?_filter]
    cases flight : c.flights.get? k with
    | none => exact .inl rfl
    | some f =>
      by_cases own : k = cr.key ∧ f.generation = g
      · refine .inr ⟨own.1, ?_, f, rfl, own.2⟩
        simp [own]
      · refine .inl ?_
        simp only [Option.filter_some]
        simp only [← Bool.decide_and, own, decide_false, Bool.not_false, if_true]
  | idle => exact .refl key g c

/-- **No failed creation leaves a trace.** A creation whose create call has failed, at once or later, was started by
a call, whether it had to release a client with other credentials first or not. One create call has been made for
all of its callers, and all of them are rejected with its failure. It spares everything else, and who tries again
finds something else. -/
theorem traceless_of_failed (disposes : Bool) {inputs : List (Input ρ κ ε)} {g : Nat} {e : ε}
    (ended : (empty disposes).Ended inputs g (.error e)) :
    ∃ before key fp request rest, inputs = before ++ .acquire key fp request :: rest ∧
      ((empty disposes).after before).Starts key fp request g ∧
      (empty disposes).Traceless inputs key request g e := by
  have sound := sound_after (ρ := ρ) (κ := κ) (ε := ε) disposes
  -- the creation as it is when its create call fails, and the call that has started it
  obtain ⟨l₀, cr₀, part₀, under₀, stage₀⟩ := id ended
  have earlier : l₀ <+: inputs := (List.prefix_append ..).trans part₀
  obtain ⟨before, mid, rfl, starts⟩ := begun_after disposes under₀
  obtain ⟨rest, parts⟩ := earlier
  refine ⟨before, cr₀.key, cr₀.fingerprint, cr₀.request, mid ++ rest, by simp [← parts], starts, ?_⟩
  have earlier : before ++ .acquire cr₀.key cr₀.fingerprint cr₀.request :: mid <+: inputs := ⟨rest, parts⟩
  exact {
    requested := requestsOf_of_connecting disposes under₀ stage₀ earlier
    rejected := by
      intro n called
      cases under : ((empty disposes).after inputs).creations.get? g with
      | none => exact .inr (called.rejected ended under)
      | some cr =>
        have orderly := orderly_after (ρ := ρ) (κ := κ) (ε := ε) disposes inputs
        have soon := orderly.live.finished_answers g cr _ under (ended.failed under)
        exact .inl ⟨soon.resolve_right (by simp), (called.unanswered under).2⟩
    turn := fun m enough n called =>
      called.rejected (ended.mono (List.prefix_append ..)) (ended.gone enough)
    unstored := fun k entry => ended.unstored
    unset := fun x => ended.unset
    failure := fun l m parts => (step_move (sound l) (.created g (.error e))).failure_spares cr₀.key
    rejection := by
      intro l m jobs parts turn
      have move := step_move (sound l) .resume
      rw [occasion, turn] at move
      have for_key (cr : Creation ρ κ ε) (under : ((empty disposes).after l).creations.get? g = some cr) :
          cr.key = cr₀.key :=
        key_eq disposes (parts ▸ List.prefix_append ..) earlier under under₀
      have spares := move.rejection_spares for_key
      exact ⟨spares.entries, spares.detached, spares.flights⟩
    retried := by
      intro n called answered fp request'
      have gone : ((empty disposes).after inputs).creations.get? g = none :=
        Option.eq_none_iff_forall_ne_some.2 fun cr under => answered (called.unanswered under).2
      refine (ended.spent gone).findsOther (sound inputs) (fun f flight => ?_) fp request'
      rw [← parts, after_append] at flight
      exact flight_ge_after (sound _) (latest_after disposes _) under₀ rest flight }

/-- A client with other credentials is released first, a second call joins, and the create call fails. -/
def refused : List (Input Unit Nat String) :=
  [.acquire "db" "old" (), .created 1 (.ok 7), .resume, .acquire "db" "new" (), .released 0 (.ok ()),
    .acquire "db" "new" (), .created 2 (.error "refused"), .resume]

theorem traceless_of_failed_refused : (empty true).Ended refused 2 (.error "refused") ∧
    ∃ before key fp request rest, refused = before ++ .acquire key fp request :: rest ∧
      ((empty true).after before).Starts key fp request 2 ∧
      (empty true).Traceless refused key request 2 "refused" := by
  have ended : (empty true).Ended refused 2 (.error "refused") :=
    ⟨refused.take 6, _, ⟨[.resume], rfl⟩, rfl, rfl⟩
  exact ⟨ended, traceless_of_failed true ended⟩

end ServiceAccess.ClientCache

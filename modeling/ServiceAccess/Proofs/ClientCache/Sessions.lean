import ServiceAccess.Proofs.ClientCache.Clearing
import ServiceAccess.Proofs.ClientCache.Conservation

/-! # Sessions that outlast a clear call

A clear call is meant to end only when no session of an earlier client is being released any more. It
waits for the releases that it starts itself, and for the flights of its moment with theirs, but for
nobody else's.

* **`Sweeping`**: the releases of a sweep are outstanding exactly while the sweep is not over, and a sweep
  is concluded when it is over. Every run keeps this (`sweeping_after`).
* **`Owed`**: the surroundings owe an end of what they have been asked for. **`Disposing`**: a dispose call is
  outstanding, as the surroundings see it.
* **`ClosesSessions`**: what clear calls are meant to do in a run.
* **`Foreign`**: another sweep, or a creation that is no flight of the moment of the call.
* **`not_closesSessions_rotatedAway`**: a call right after a rotation is answered too early.
* **`closesSessions_iff`**: clear calls do in a run what they are meant to exactly when none is answered
  while a foreign release of an earlier client is outstanding, and in all runs exactly when nothing is ever
  released. -/

namespace ServiceAccess.ClientCache

variable {ρ κ ε : Type}

/-! ## Sweeps and their releases -/

/-- **A sweep goes with its releases**, while an action is done: the continuation of the action counts as
one that is still to run. -/
structure SweepingDuring (c : ClientCache ρ κ ε) (a : Action ρ κ ε) : Prop where
  /-- A release that belongs to a sweep is one of its open releases. -/
  owned_open : ∀ r n, c.owners.get? r = some (.sweep n) →
    ∃ s, c.sweeps.get? n = some s ∧ (r, none) ∈ s.releases
  /-- A sweep that is about to be answered is over. -/
  concludes_over : ∀ n s, .conclude n ∈ c.jobs ∨ a = .conclude n → c.sweeps.get? n = some s → s.isOver
  /-- Who is about to be answered is a call. -/
  concludes_lt : ∀ n, .conclude n ∈ c.jobs → n < c.calls
  /-- Who is about to be answered has swept. -/
  concludes_swept : ∀ n, .conclude n ∈ c.jobs → c.waiting.get? n = none

/-- **A sweep goes with its releases.** -/
abbrev Sweeping (c : ClientCache ρ κ ε) : Prop := c.SweepingDuring .rest

/-- In the empty cache there is no sweep. -/
theorem sweeping_empty (disposes : Bool) : Sweeping (.empty disposes : ClientCache ρ κ ε) := by
  constructor <;> simp [empty]

/-- Taking a continuation off the list to run it leaves the sweeps with their releases. -/
theorem Sweeping.occasion {c : ClientCache ρ κ ε} (h : c.Sweeping) (i : Input ρ κ ε) :
    (c.occasion i).1.SweepingDuring (c.occasion i).2 := by
  obtain ⟨jobs, same⟩ := c.occasion_fst i
  have stays {job : Job} (here : job ∈ jobs) : job ∈ c.jobs := mem_jobs_of_occasion (i := i) (by rwa [same])
  have concludes {n : Nat} (soon : .conclude n ∈ jobs ∨ (c.occasion i).2 = .conclude n) : .conclude n ∈ c.jobs :=
    soon.elim stays (mem_jobs_of_action (.conclude n) (by simp))
  rw [same]
  exact {
    owned_open := h.owned_open
    concludes_over := fun n s soon sweeping => h.concludes_over n s (.inl (concludes soon)) sweeping
    concludes_lt := fun n soon => h.concludes_lt n (stays soon)
    concludes_swept := fun n soon => h.concludes_swept n (stays soon) }

/-- A sweep that is over has no open release. -/
theorem Sweep.not_open {s : Sweep κ ε} (ended : s.isOver) (r : Nat) : (r, none) ∉ s.releases := by
  intro still
  have past := List.all_eq_true.1 ended _ still
  simp at past

/-- Noting another release leaves a release open. -/
theorem open_note_of_ne {s : Sweep κ ε} {n r : Nat} (result : Except ε Unit) (other : r ≠ n)
    (still : (r, none) ∈ s.releases) : (r, none) ∈ (s.note n result).releases :=
  List.mem_map.2 ⟨(r, none), still, if_neg other⟩

/-- The releases of a new sweep are its open releases. -/
theorem SweepingDuring.owned_fresh {c : ClientCache ρ κ ε} {a : Action ρ κ ε} (h : c.SweepingDuring a)
    {call : Nat} (fresh : c.sweeps.get? call = none) (answer : Answer κ) (len : Nat) {r n : Nat}
    (owned : (c.sweepOwners call len).get? r = some (.sweep n)) :
    ∃ s, (c.sweeps.insert call ⟨answer, (List.range' c.releases len).map fun r => (r, none)⟩).get? n
      = some s ∧ (r, none) ∈ s.releases := by
  rw [get?_sweepOwners] at owned
  split at owned
  · next new =>
    obtain rfl := Owner.sweep.inj (Option.some.inj owned)
    exact ⟨_, Table.get?_insert_self .., List.mem_map.2 ⟨r, List.mem_range'_1.2 new, rfl⟩⟩
  · obtain ⟨s, sweeping, still⟩ := h.owned_open r n owned
    -- an older release belongs to an older sweep
    have other : n ≠ call := by
      rintro rfl
      simp [fresh] at sweeping
    exact ⟨s, by rw [Table.get?_insert, if_neg other, sweeping], still⟩

variable [DecidableEq κ]
variable {c c' : ClientCache ρ κ ε} {a : Action ρ κ ε} {es : List (Effect ρ κ ε)}

/-- A sweep goes on as long as it has not been answered: its releases end, and no other one starts. -/
theorem Move.sweep_stays (m : Move c a c' es) (attended : c.Attended) {n : Nat} {s : Sweep κ ε}
    (sweeping : c.sweeps.get? n = some s) (other : a ≠ .conclude n) : c'.sweeps.get? n = some s ∨
      ∃ r result, a = .released r result ∧ c.owners.get? r = some (.sweep n) ∧
        c'.sweeps.get? n = some (s.note r result) := by
  cases m with
  | evicted =>
    have before : n ≠ c.calls := Nat.ne_of_lt (attended.sweep_lt n s sweeping)
    exact .inl (by rw [Table.get?_insert, if_neg before, sweeping])
  | @swept call _ _ waits =>
    have before : n ≠ call := by
      rintro rfl
      simp [attended.waiting_sweep _ _ waits] at sweeping
    exact .inl (by rw [Table.get?_insert, if_neg before, sweeping])
  | @noted r call result s₀ owned sweeping₀ =>
    by_cases same : n = call
    · subst same
      obtain rfl := Option.some.inj (sweeping.symm.trans sweeping₀)
      exact .inr ⟨r, result, rfl, owned, Table.get?_insert_self ..⟩
    · exact .inl (by rw [Table.get?_insert, if_neg same, sweeping])
  | @concluded call =>
    have before : n ≠ call := fun same => other (same ▸ rfl)
    exact .inl (by rw [Table.get?_erase, if_neg before, sweeping])
  | _ => exact .inl sweeping

/-- An answer that a move schedules is that of a sweep that is over. -/
theorem Move.conclude_scheduled (m : Move c a c' es) {n : Nat} (soon : .conclude n ∈ c'.jobs) :
    .conclude n ∈ c.jobs ∨ ∃ s, c'.sweeps.get? n = some s ∧ s.isOver := by
  cases m with
  | @evicted _ clients | @swept _ _ clients =>
    dsimp only at soon
    split at soon
    · next none =>
      rcases List.mem_append.1 soon with before | new
      · exact .inl before
      · obtain rfl := Job.conclude.inj (List.mem_singleton.1 new)
        -- it has found no client
        refine .inr ⟨_, Table.get?_insert_self .., ?_⟩
        rw [isOver_fresh, List.isEmpty_iff.1 none, List.length_nil]
    · simp only [sweepJobs] at soon
      split at soon <;> exact .inl (by simpa using soon)
  | noted =>
    dsimp only at soon
    split at soon
    · next ended =>
      rcases List.mem_append.1 soon with before | new
      · exact .inl before
      · obtain rfl := Job.conclude.inj (List.mem_singleton.1 new)
        exact .inr ⟨_, Table.get?_insert_self .., ended⟩
    · exact .inl soon
  | restarted | replacing =>
    simp only [releaseJobs] at soon
    split at soon <;> exact .inl (by simpa using soon)
  | cleared =>
    dsimp only at soon
    split at soon <;> exact .inl (by simpa using soon)
  | _ => exact .inl (by simpa using soon)

section
variable (m : Move c a c' es) (sound : c.Sound) (attended : c.Attended) (h : c.SweepingDuring a)
include m sound attended h

/-- The releases of a sweep start with it, and the end of one is noted. -/
theorem Move.owned_open {r n : Nat} (owned : c'.owners.get? r = some (.sweep n)) :
    ∃ s, c'.sweeps.get? n = some s ∧ (r, none) ∈ s.releases := by
  have still (owned : c.owners.get? r = some (.sweep n)) (goes : ∀ result, a ≠ .released r result) :
      ∃ s, c'.sweeps.get? n = some s ∧ (r, none) ∈ s.releases := by
    obtain ⟨s, sweeping, waits⟩ := h.owned_open r n owned
    have unanswered : a ≠ .conclude n := fun now => Sweep.not_open (h.concludes_over n s (.inr now) sweeping) r waits
    rcases m.sweep_stays attended sweeping unanswered with sweeping' | ⟨r', result, ends, -, sweeping'⟩
    · exact ⟨s, sweeping', waits⟩
    · have other : r ≠ r' := fun same => goes result (same ▸ ends)
      exact ⟨_, sweeping', open_note_of_ne result other waits⟩
  rcases m.owner_origin sound owned with ⟨before, goes⟩ | ⟨new, -⟩
  · exact still before goes
  · cases m with
    -- only a sweep gives out numbers for itself: all others are taken by creations, or given back
    | evicted => exact h.owned_fresh attended.next_unswept _ _ owned
    | swept waits => exact h.owned_fresh (attended.waiting_sweep _ _ waits) _ _ owned
    | restarted | replacing =>
      rw [Table.get?_insert] at owned
      split at owned
      · cases owned
      · exact absurd (sound.owner_lt r _ owned) (Nat.not_lt_of_le new)
    | connected | replaced | aborted | noted | forgotten =>
      rw [Table.get?_erase] at owned
      split at owned
      · cases owned
      · exact absurd (sound.owner_lt r _ owned) (Nat.not_lt_of_le new)
    | _ => exact absurd (sound.owner_lt r _ owned) (Nat.not_lt_of_le new)

omit sound in
/-- A sweep that is about to be answered stays over. -/
theorem Move.concludes_over {n : Nat} {s : Sweep κ ε} (soon : .conclude n ∈ c'.jobs)
    (sweeping : c'.sweeps.get? n = some s) : s.isOver := by
  rcases m.conclude_scheduled soon with before | ⟨s', sweeping', ended⟩
  · rcases m.sweep_origin sweeping with ⟨s₀, sweeping₀⟩ | ⟨rfl, -⟩ | ⟨⟨w, waits⟩, -⟩
    · have ended := h.concludes_over n s₀ (.inl before) sweeping₀
      by_cases now : a = .conclude n
      · subst now
        cases m with
        | concluded => simp at sweeping
        | idle nothing => simp [nothing] at sweeping
      · rcases m.sweep_stays attended sweeping₀ now with same | ⟨r, result, -, owned, -⟩
        · obtain rfl := Option.some.inj (same.symm.trans sweeping)
          exact ended
        · -- none of its releases is left to end
          obtain ⟨s₁, sweeping₁, waits⟩ := h.owned_open r n owned
          obtain rfl := Option.some.inj (sweeping₀.symm.trans sweeping₁)
          exact absurd waits (Sweep.not_open ended r)
    · exact absurd (h.concludes_lt _ before) (Nat.lt_irrefl _)
    · simp [h.concludes_swept n before] at waits
  · obtain rfl := Option.some.inj (sweeping.symm.trans sweeping')
    exact ended

omit sound in
/-- Who is about to be answered is a call. -/
theorem Move.concludes_lt {n : Nat} (soon : .conclude n ∈ c'.jobs) : n < c'.calls := by
  rcases m.conclude_scheduled soon with before | ⟨s, sweeping, -⟩
  · exact Nat.lt_of_lt_of_le (h.concludes_lt n before) m.calls_le
  · exact (m.attended attended).sweep_lt n s sweeping

omit sound in
/-- Who is about to be answered does not wait any more. -/
theorem Move.concludes_swept {n : Nat} (soon : .conclude n ∈ c'.jobs) : c'.waiting.get? n = none := by
  rcases m.conclude_scheduled soon with before | ⟨s, sweeping, -⟩
  · refine Option.eq_none_iff_forall_ne_some.2 fun w waits => ?_
    rcases m.waiting_origin waits with ⟨⟨w₀, waits₀⟩, -⟩ | ⟨rfl, -⟩
    · simp [h.concludes_swept n before] at waits₀
    · exact absurd (h.concludes_lt _ before) (Nat.lt_irrefl _)
  · exact (m.attended attended).sweep_unwaiting sweeping

end

/-- **Every move leaves the sweeps with their releases.** -/
theorem Move.sweeping (m : Move c a c' es) (sound : c.Sound) (attended : c.Attended) (h : c.SweepingDuring a) :
    c'.Sweeping where
  owned_open _ _ owned := m.owned_open sound attended h owned
  concludes_over _ _ soon sweeping := m.concludes_over attended h (soon.resolve_right (by simp)) sweeping
  concludes_lt _ soon := m.concludes_lt attended h soon
  concludes_swept _ soon := m.concludes_swept attended h soon

/-- In every run of the empty cache sweeps go with their releases throughout. -/
theorem sweeping_after (disposes : Bool) (inputs : List (Input ρ κ ε)) :
    ((empty disposes).after inputs).Sweeping :=
  (Run.after_induction (P := fun c : ClientCache ρ κ ε => c.Orderly ∧ c.Sweeping) _
    ⟨orderly_empty disposes, sweeping_empty disposes⟩
    (fun _ i h => ⟨h.1.step i, (step_move h.1.sound i).sweeping (h.1.occasion i).sound (h.1.occasion i).attended
      (Sweeping.occasion h.2 i)⟩) inputs).2

/-! ## Dispose calls -/

omit [DecidableEq κ] in
/-- The start of a release hands its client over under the next number, where there is a hook. -/
theorem dispose_mem_releaseEffects {r : Nat} {x y : κ} :
    .dispose r x ∈ (c.releaseEffects y : List (Effect ρ κ ε)) ↔
      c.disposes = true ∧ r = c.releases ∧ x = y := by
  rw [releaseEffects]
  split <;> simp_all

omit [DecidableEq κ] in
/-- A sweep hands its clients over under the next numbers, where there is a hook. -/
theorem dispose_mem_sweepEffects {r : Nat} {x : κ} {clients : List κ}
    (asked : .dispose r x ∈ (c.sweepEffects clients : List (Effect ρ κ ε))) :
    c.disposes = true ∧ (c.releases ≤ r ∧ r < c.releases + clients.length) ∧ x ∈ clients := by
  rw [sweepEffects] at asked
  split at asked
  · next hook =>
    obtain ⟨⟨y, n⟩, here, same⟩ := List.mem_map.1 asked
    obtain ⟨rfl, rfl⟩ := Effect.dispose.inj same
    obtain ⟨low, high, place⟩ := List.mem_zipIdx here
    exact ⟨hook, ⟨low, high⟩, List.mem_of_getElem place.symm⟩
  · simp at asked

/-- **Who hands a client over to the dispose hook**: a creation, a call that evicts, or a clear call that
sweeps. -/
theorem Move.dispose_cases (m : Move c a c' es) {r : Nat} {x : κ} (asked : .dispose r x ∈ es) :
    c.disposes = true ∧
    ((∃ g, c'.owners.get? r = some (.creation g)) ∨
      (∃ fp, a = .evictStale fp ∧ c'.owners.get? r = some (.sweep c.calls)) ∨
      ∃ call w, a = .sweep call ∧ c.waiting.get? call = some w ∧
        c'.owners.get? r = some (.sweep call) ∧ (x ∈ c.detached ∨ ∃ key e,
          c.entries.get? key = some e ∧ e.generation ≤ w.horizon ∧ e.client = x)) := by
  cases m with
  | restarted =>
    simp only [List.mem_cons, reduceCtorEq, false_or, dispose_mem_releaseEffects] at asked
    obtain ⟨hook, rfl, rfl⟩ := asked
    exact ⟨hook, .inl ⟨_, Table.get?_insert_self ..⟩⟩
  | replacing =>
    obtain ⟨hook, rfl, rfl⟩ := dispose_mem_releaseEffects.1 asked
    exact ⟨hook, .inl ⟨_, Table.get?_insert_self ..⟩⟩
  | evicted =>
    obtain ⟨hook, new, -⟩ := dispose_mem_sweepEffects asked
    exact ⟨hook, .inr (.inl ⟨_, rfl, by rw [get?_sweepOwners, if_pos new]⟩)⟩
  | @swept call w clients waits swept =>
    -- in front of the releases stands at most a note
    have asked : .dispose r x ∈ c.sweepEffects clients := by
      refine (List.mem_append.1 asked).resolve_left fun here => ?_
      split at here <;> simp at here
    obtain ⟨hook, new, here⟩ := dispose_mem_sweepEffects asked
    refine ⟨hook, .inr (.inr ⟨call, w, rfl, waits, by rw [get?_sweepOwners, if_pos new], ?_⟩)⟩
    rw [swept, List.mem_append] at here
    refine here.imp_right fun here => ?_
    obtain ⟨e, old, rfl⟩ := List.mem_map.1 here
    obtain ⟨key, stored⟩ := Table.mem_values_iff.1 old
    rw [Table.get?_filter, Option.filter_eq_some_iff] at stored
    exact ⟨key, e, stored.1, by simpa using stored.2, rfl⟩
  | answered => simp at asked
  | _ => simp at asked

/-- **The surroundings owe an end**: something has been asked for, and no end of it has come in since. -/
def Owed (c : ClientCache ρ κ ε) (inputs : List (Input ρ κ ε)) (e : Effect ρ κ ε)
    (ends : Input ρ κ ε → Prop) : Prop :=
  ∃ l i m, inputs = l ++ i :: m ∧ e ∈ ((c.after l).step i).2 ∧ ∀ j ∈ m, ¬ ends j

/-- Nothing is owed before the first input. -/
theorem not_owed_nil {e : Effect ρ κ ε} {ends : Input ρ κ ε → Prop} : ¬ c.Owed [] e ends := by
  rintro ⟨l, i, m, parts, -⟩
  simp at parts

/-- What is owed after one more input is asked for by that input, or it was owed before and the input is no
end of it. -/
theorem owed_concat_iff {l : List (Input ρ κ ε)} {i : Input ρ κ ε} {e : Effect ρ κ ε}
    {ends : Input ρ κ ε → Prop} :
    c.Owed (l ++ [i]) e ends ↔ e ∈ ((c.after l).step i).2 ∨ (c.Owed l e ends ∧ ¬ ends i) := by
  constructor
  · rintro ⟨l', j, m, parts, asked, silent⟩
    rcases List.eq_nil_or_concat m with rfl | ⟨m, k, rfl⟩
    · obtain ⟨rfl, same⟩ := List.append_inj' parts rfl
      obtain rfl := List.singleton_inj.1 same
      exact .inl asked
    · rw [List.concat_eq_append, ← List.cons_append, ← List.append_assoc] at parts
      obtain ⟨rfl, same⟩ := List.append_inj' parts rfl
      obtain rfl := List.singleton_inj.1 same
      exact .inr ⟨⟨l', j, m, rfl, asked, fun k here => silent k (by simp [here])⟩, silent _ (by simp)⟩
  · rintro (asked | ⟨⟨l', j, m, rfl, asked, silent⟩, other⟩)
    · exact ⟨l, i, [], rfl, asked, by simp⟩
    · refine ⟨l', j, m ++ [i], by simp, asked, fun k here => ?_⟩
      rcases List.mem_append.1 here with here | here
      · exact silent k here
      · exact List.mem_singleton.1 here ▸ other

/-- **A dispose call is outstanding**: some input has asked for it, and its end has not come in since. -/
def Disposing (c : ClientCache ρ κ ε) (inputs : List (Input ρ κ ε)) (r : Nat) (x : κ) : Prop :=
  ∃ l i m, inputs = l ++ i :: m ∧ .dispose r x ∈ ((c.after l).step i).2 ∧
    ∀ result, .released r result ∉ m

/-- A dispose call is outstanding when its end is owed. -/
theorem disposing_iff_owed {inputs : List (Input ρ κ ε)} {r : Nat} {x : κ} : c.Disposing inputs r x ↔
    c.Owed inputs (.dispose r x) fun i => ∃ result, i = .released r result := by
  refine exists_congr fun l => exists_congr fun i => exists_congr fun m => ?_
  refine and_congr_right fun _ => and_congr_right fun _ => ?_
  constructor
  · rintro silent j here ⟨result, rfl⟩
    exact silent result here
  · exact fun silent result here => silent _ here ⟨result, rfl⟩

/-- A dispose call that is outstanding after one more input is asked for by that input, or it was
outstanding before. -/
theorem Disposing.cases {l : List (Input ρ κ ε)} {i : Input ρ κ ε} {r : Nat} {x : κ}
    (h : c.Disposing (l ++ [i]) r x) : .dispose r x ∈ ((c.after l).step i).2 ∨
      (c.Disposing l r x ∧ ∀ result, i ≠ .released r result) := by
  rw [disposing_iff_owed, owed_concat_iff] at h
  rw [disposing_iff_owed]
  exact h.imp_right fun ⟨before, other⟩ => ⟨before, fun result same => other ⟨result, same⟩⟩

omit [DecidableEq κ] in
/-- A release ends because its end comes in, or by a continuation. -/
theorem released_of_occasion {i : Input ρ κ ε} {r : Nat} {result : Except ε Unit}
    (h : (c.occasion i).2 = .released r result) : i = .released r result ∨ .release r ∈ c.jobs := by
  cases i with
  | released =>
    obtain ⟨rfl, rfl⟩ := Action.released.inj h
    exact .inl rfl
  | resume =>
    simp only [ClientCache.occasion] at h
    split at h
    · simp at h
    · next job jobs list =>
      cases job <;> simp [Job.action] at h
      simp [list, h.1]
  | _ => simp [ClientCache.occasion] at h

/-- The release of an outstanding dispose call has an owner. -/
theorem Disposing.owned (disposes : Bool) {inputs : List (Input ρ κ ε)} {r : Nat} {x : κ}
    (h : (empty disposes : ClientCache ρ κ ε).Disposing inputs r x) :
    disposes = true ∧ ∃ o, ((empty disposes).after inputs).owners.get? r = some o := by
  induction inputs using List.reverseRecOn with
  | nil => exact absurd (disposing_iff_owed.1 h) not_owed_nil
  | append_singleton l i ih =>
    have orderly := orderly_after (ρ := ρ) (κ := κ) (ε := ε) disposes l
    obtain ⟨jobs, move⟩ := exists_move orderly.sound i
    rw [after_concat]
    rcases h.cases with asked | ⟨before, goes⟩
    · obtain ⟨hook, owner⟩ := move.dispose_cases asked
      rw [disposes_after] at hook
      refine ⟨hook, ?_⟩
      rcases owner with ⟨_, owned⟩ | ⟨_, -, owned⟩ | ⟨_, _, -, -, owned, -⟩ <;> exact ⟨_, owned⟩
    · obtain ⟨hook, o, owned⟩ := ih before
      refine ⟨hook, o, move.owner_stays (orderly.sound.withJobs jobs) owned fun result ends => ?_⟩
      -- where there is a hook, releases end only from outside
      rcases released_of_occasion ends with same | soon
      · exact goes result same
      · have hookless := orderly.live.ends_hookless r soon
        rw [disposes_after, hook] at hookless
        exact Bool.noConfusion hookless

/-! ## Clear calls -/

/-- **A clear call on its way**: it has been made, calls for no client, and has heard of the end of every
flight of its moment that it does not wait for any more. -/
structure Clearing (c : ClientCache ρ κ ε) (n : Nat) (flights : List Nat) : Prop where
  /-- It has been made. -/
  made : n < c.calls
  /-- It calls for no client. -/
  uncalled : ∀ g cr, c.creations.get? g = some cr → n ∉ cr.callers
  /-- Its flights are numbered. -/
  numbered : ∀ g ∈ flights, g ≤ c.generation
  /-- Its flights are answered, or it waits for them. -/
  heard : ∀ g ∈ flights, c.creations.get? g = none ∨
    ∃ w, c.waiting.get? n = some w ∧ g ∈ w.awaited

/-- A clear call that is made is on its way. -/
theorem Clearing.start (sound : c.Sound) (attended : c.Attended) :
    (c.step .clear).1.Clearing c.calls (c.flights.values.map Flight.generation) := by
  rw [step, clear_eq]
  refine ⟨Nat.lt_succ_self _, fun g cr under here => ?_, fun g here => ?_, fun g here => ?_⟩
  · exact attended.next_uncalled under here
  · obtain ⟨f, flying, rfl⟩ := List.mem_map.1 here
    obtain ⟨key, flight⟩ := Table.mem_values_iff.1 flying
    obtain ⟨cr, under, -⟩ := sound.flight_creation key f flight
    exact sound.creation_le _ cr under
  · exact .inr ⟨_, Table.get?_insert_self .., here⟩

omit [DecidableEq κ] in
/-- Whether a clear call is on its way does not depend on the continuations. -/
theorem Clearing.withJobs {n : Nat} {flights : List Nat} (h : c.Clearing n flights) (jobs : List Job) :
    Clearing { c with jobs := jobs } n flights :=
  ⟨h.made, h.uncalled, h.numbered, h.heard⟩

/-- Every move leaves a clear call on its way. -/
theorem Move.clearing (m : Move c a c' es) (live : c.LiveDuring a) {n : Nat} {flights : List Nat}
    (h : c.Clearing n flights) : c'.Clearing n flights := by
  have gone : ∀ g ∈ flights, c.creations.get? g = none → c'.creations.get? g = none := by
    intro g here none
    refine Option.eq_none_iff_forall_ne_some.2 fun cr under => ?_
    rcases m.creation_cases under with ⟨cr₀, before, -⟩ | ⟨rfl, -⟩
    · simp [none] at before
    · -- a new creation takes a number of its own
      exact Nat.not_succ_le_self _ (h.numbered _ here)
  refine ⟨Nat.lt_of_lt_of_le h.made m.calls_le, fun g cr' under' here => ?_, fun g here => ?_,
    fun g here => ?_⟩
  · -- the only new caller is the call that is being made
    rcases m.caller_origin under' here with ⟨cr, under, old⟩ | ⟨rfl, -⟩
    · exact h.uncalled g cr under old
    · exact Nat.lt_irrefl _ h.made
  · exact Nat.le_trans (h.numbered g here) m.generation_le
  · rcases h.heard g here with none | ⟨w, waits, awaited⟩
    · exact .inl (gone g here none)
    · rcases m.waiting_cases waits h.made with ⟨w', waits', -, -, still⟩ | ⟨rfl, -⟩
      · by_cases none : c'.creations.get? g = none
        · exact .inl none
        · exact .inr ⟨w', waits', still g awaited none⟩
      · -- a call that begins to sweep waits for nothing any more
        simp [live.sweeps_ready n w (.inr rfl) waits] at awaited

/-- **What outlasts a clear call is not its own**: when it is answered, no outstanding release belongs to it
or to a flight of its moment. -/
theorem Clearing.foreign {n : Nat} {flights : List Nat} (h : c.Clearing n flights)
    (orderly : c.OrderlyDuring a) (sweeping : c.SweepingDuring a) (m : Move c a c' es)
    {o : Except ε (Answer κ)} (answered : .settled n o ∈ es) {r : Nat} {owner : Owner}
    (owned : c'.owners.get? r = some owner) :
    owner ≠ .sweep n ∧ ∀ g ∈ flights, owner ≠ .creation g := by
  rcases m.settled_cases answered with ⟨rfl, -⟩ | ⟨g, cr, -, -, under, caller, -⟩ | ⟨s, rfl, sweeps, -⟩
  · exact absurd h.made (Nat.lt_irrefl _)
  · exact absurd caller (h.uncalled g cr under)
  · -- the call concludes a sweep that is over, and leaves the releases alone
    have owned₀ : c.owners.get? r = some owner := by
      cases m with
      | concluded => exact owned
      | idle => exact owned
    refine ⟨?_, ?_⟩
    · rintro rfl
      obtain ⟨s', sweeps', still⟩ := sweeping.owned_open r n owned₀
      exact Sweep.not_open (sweeping.concludes_over n s' (.inr rfl) sweeps') r still
    · rintro g here rfl
      rcases h.heard g here with none | ⟨w, waits, -⟩
      · exact orderly.sound.owner_under r g owned₀ none
      · simp [orderly.attended.waiting_sweep n w waits] at sweeps

/-- **A clear call is not responsible for a release**: another sweep waits for it, or a creation that is no
flight at the moment when the call is made. -/
def Foreign (c : ClientCache ρ κ ε) : Owner → Prop
  | .sweep call => call ≠ c.calls
  | .creation g => g ∉ c.flights.values.map Flight.generation

/-- In every run, whatever dispose call is outstanding when a clear call is answered is foreign to it. -/
theorem foreign_of_settled (disposes : Bool) {before mid : List (Input ρ κ ε)} {i : Input ρ κ ε}
    {o : Except ε (Answer κ)} {r : Nat} {owner : Owner}
    (answered : .settled ((empty disposes).after before).calls o
      ∈ (((empty disposes).after (before ++ .clear :: mid)).step i).2)
    (owned : ((empty disposes).after (before ++ .clear :: mid ++ [i])).owners.get? r = some owner) :
    ((empty disposes).after before).Foreign owner := by
  have orderly := orderly_after (ρ := ρ) (κ := κ) (ε := ε) disposes
  have sweeping := sweeping_after (ρ := ρ) (κ := κ) (ε := ε) disposes
  -- the call is on its way from its moment on
  have way : ∀ mid, ((empty disposes).after (before ++ .clear :: mid)).Clearing
      ((empty disposes).after before).calls
      (((empty disposes).after before).flights.values.map Flight.generation) := by
    intro mid
    rw [after_append_cons]
    exact Orderly.after_keeps (P := fun c => c.Clearing _ _) (fun _ l h => h.withJobs l)
      (fun _ _ _ _ orderly m h => m.clearing orderly.live h) ((orderly before).step .clear)
      (.start (orderly before).sound (orderly before).attended) mid
  have move := step_move (orderly (before ++ .clear :: mid)).sound i
  rw [after_concat] at owned
  obtain ⟨jobs, same⟩ := ((empty disposes).after (before ++ .clear :: mid)).occasion_fst i
  have here : (((empty disposes).after (before ++ .clear :: mid)).occasion i).1.Clearing
      ((empty disposes).after before).calls
      (((empty disposes).after before).flights.values.map Flight.generation) := by
    rw [same]
    exact (way mid).withJobs jobs
  obtain ⟨sweep, creation⟩ := here.foreign ((orderly _).occasion i) (Sweeping.occasion (sweeping _) i)
    move answered owned
  cases owner with
  | sweep call => exact fun same => sweep (same ▸ rfl)
  | creation g => exact fun flight => creation g flight rfl

/-! ## The exact condition -/

/-- **A run in which clear calls close sessions.** When a clear call is answered, no dispose call for a
client that was created before it was made is outstanding. -/
def ClosesSessions (c : ClientCache ρ κ ε) (inputs : List (Input ρ κ ε)) : Prop :=
  ∀ before mid i o, before ++ .clear :: mid ++ [i] <+: inputs →
    .settled (c.after before).calls o ∈ ((c.after (before ++ .clear :: mid)).step i).2 →
    ∀ r x, c.Disposing (before ++ .clear :: mid ++ [i]) r x → x ∉ c.made before

/-- Clients are made only where there are requests for them. -/
theorem nonempty_of_made (disposes : Bool) {inputs : List (Input ρ κ ε)} {x : κ}
    (made : x ∈ (empty disposes).made inputs) : Nonempty ρ := by
  induction inputs using List.reverseRecOn with
  | nil => simp [ClientCache.made] at made
  | append_singleton l i ih =>
    rw [made_append, List.mem_append] at made
    rcases made with before | now
    · exact ih before
    · -- a client comes in for a creation, which has a request
      cases i with
      | created g result =>
        cases under : ((empty disposes).after l).creations.get? g with
        | some cr => exact ⟨cr.request⟩
        | none => cases result <;> simp [ClientCache.made, madeIn, under] at now
      | _ => simp [ClientCache.made, madeIn] at now

/-- A client is stored, and then its credentials change and all clients are to go. -/
def rotatedAway (request : ρ) (x : κ) : List (Input ρ κ ε) :=
  [.acquire "key" "old" request, .created 1 (.ok x), .resume, .evictStale "new"]

/-- **A call right after a rotation** finds nothing left to sweep, and is answered while the client is still
being released. -/
theorem not_closesSessions_rotatedAway (request : ρ) (x : κ) :
    ¬ ClosesSessions (.empty true : ClientCache ρ κ ε)
      (rotatedAway request x ++ .clear :: [.resume] ++ [.resume]) := by
  intro closes
  have none : (∅ : Table String (Entry κ)).erase "key" = ∅ := Table.erase_of_absent rfl
  refine closes (rotatedAway request x) [.resume] .resume (.ok .done) (List.prefix_refl _) ?answered 0 x
    ⟨[.acquire "key" "old" request, .created 1 (.ok x), .resume], .evictStale "new", [.clear, .resume, .resume],
      rfl, ?asked, by simp⟩ ?made
  all_goals
    simp [rotatedAway, made, madeIn, after, empty, step, acquire, start, connect, enter, revise, clear, evictStale,
      settleCreation, settle, store, finish, schedule, resume, run, answerCallers, notifyWaiting, sweepFor, sweepOut,
      releaseEach, release, concludeSweep, Sweep.outcome, none, Table.values, Table.keys,
      Table.entries_insert_of_not_mem]

/-- Clear calls close sessions in all runs exactly when nothing is ever released: there is no dispose hook, or
there can be no client. -/
theorem closesSessions_all_iff (disposes : Bool) :
    (∀ inputs, ClosesSessions (.empty disposes : ClientCache ρ κ ε) inputs) ↔
      disposes = false ∨ IsEmpty ρ ∨ IsEmpty κ := by
  constructor
  · intro closes
    rw [or_iff_not_imp_left, Bool.not_eq_false, or_iff_not_imp_left, not_isEmpty_iff]
    rintro rfl ⟨request⟩
    exact ⟨fun x => not_closesSessions_rotatedAway request x (closes _)⟩
  · intro idle inputs before mid i o part answered r x open_ made
    rcases idle with rfl | requestless | clientless
    · exact Bool.noConfusion open_.owned.1
    · exact not_isEmpty_iff.2 (nonempty_of_made disposes made) requestless
    · exact clientless.false x

/-- **Closed sessions, exactly.** Clear calls close sessions in a run exactly when none of them is answered
while a foreign release of a client that was created before the call is outstanding. And there is a run in which
this happens unless nothing is ever released. -/
theorem closesSessions_iff (disposes : Bool) :
    (∀ inputs, ClosesSessions (.empty disposes : ClientCache ρ κ ε) inputs ↔
      ∀ before mid i o, before ++ .clear :: mid ++ [i] <+: inputs →
        .settled ((empty disposes).after before).calls o
          ∈ (((empty disposes).after (before ++ .clear :: mid)).step i).2 →
        ∀ r x owner, (empty disposes).Disposing (before ++ .clear :: mid ++ [i]) r x →
          ((empty disposes).after (before ++ .clear :: mid ++ [i])).owners.get? r = some owner →
          ((empty disposes).after before).Foreign owner → x ∉ (empty disposes).made before) ∧
    ((∀ inputs, ClosesSessions (.empty disposes : ClientCache ρ κ ε) inputs) ↔
      disposes = false ∨ IsEmpty ρ ∨ IsEmpty κ) := by
  refine ⟨fun inputs => ⟨fun closes before mid i o part answered r x owner open_ _ _ => ?_,
    fun closes before mid i o part answered r x open_ => ?_⟩, closesSessions_all_iff disposes⟩
  · exact closes before mid i o part answered r x open_
  · obtain ⟨-, owner, owned⟩ := open_.owned
    exact closes before mid i o part answered r x owner open_ owned
      (foreign_of_settled disposes answered owned)

/-- A clear call is answered while the client of the call before it is still being released. -/
theorem not_closesSessions_rotated :
    ¬ ClosesSessions (.empty true : ClientCache Unit Nat Unit)
      (rotatedAway () 10 ++ .clear :: [.resume] ++ [.resume]) :=
  not_closesSessions_rotatedAway () 10

end ServiceAccess.ClientCache

import ServiceAccess.Proofs.ClientCache.Failing

/-! # What a sweep comes to

The releases that a call starts when it sweeps clients out of the cache end in any order, and some of them may fail.
The call waits for all of them, and nothing else in the cache depends on how they end.

* **`result?`**: the result that a release ends with in a run. Where there is a dispose hook, this is what the
  surroundings report first (`result?_eq_findSome?`).
* **`verdict`**: what a sweep comes to: the first failure in the order of the clients (`verdict_eq_error_iff`), or its
  answer.
* **`swept_after`**: a call that sweeps is answered with its verdict, once, when all its releases have ended.
  **`swept_turn`**: it is answered then.
* **`Move.ends_quietly`**: the end of a release of a sweep changes nothing but the sweep.
* **`wanted_of_stored`**: a stored client has been wanted with its fingerprint.
* **`Expelled`**: a creation whose client is stored no more. It stays so. -/

namespace ServiceAccess.ClientCache

variable {ρ κ ε : Type}

/-! ## Results and verdicts -/

/-- The result that an action ends a release with. -/
def Action.resultOf? (r : Nat) : Action ρ κ ε → Option (Except ε Unit)
  | .released n result => if n = r then some result else none
  | _ => none

/-- The result that something which happens to a cache ends a release with. -/
def Input.resultOf? (r : Nat) : Input ρ κ ε → Option (Except ε Unit)
  | .released n result => if n = r then some result else none
  | _ => none

/-- The failure of a release that has failed. -/
def failureOf? : Option (Except ε Unit) → Option ε
  | some (.error e) => some e
  | _ => none

/-- **What a sweep comes to** when its releases have ended with given results: the failure of the first one that has
failed, in the order of the clients, or its answer. -/
def verdict (answer : Answer κ) (releases : List Nat) (result : Nat → Option (Except ε Unit)) :
    Except ε (Answer κ) :=
  match releases.findSome? fun r => failureOf? (result r) with
  | some e => .error e
  | none => .ok answer

/-- The sweep of some releases that have ended with given results, so far. -/
def Sweep.noted (answer : Answer κ) (releases : List Nat) (result : Nat → Option (Except ε Unit)) :
    Sweep κ ε :=
  ⟨answer, releases.map fun r => (r, result r)⟩

theorem Sweep.outcome_noted (answer : Answer κ) (releases : List Nat)
    (result : Nat → Option (Except ε Unit)) :
    (noted answer releases result).outcome = verdict answer releases result := by
  rw [Sweep.outcome, verdict, noted, List.findSome?_map]
  rfl

theorem Sweep.isOver_noted {answer : Answer κ} {releases : List Nat}
    {result : Nat → Option (Except ε Unit)} :
    (noted answer releases result).isOver = true ↔ ∀ r ∈ releases, result r ≠ none := by
  simp [Sweep.isOver, noted, Option.isSome_iff_ne_none]

theorem Sweep.mem_noted {answer : Answer κ} {releases : List Nat} {result : Nat → Option (Except ε Unit)}
    {r : Nat} : (r, none) ∈ (noted answer releases result).releases ↔ r ∈ releases ∧ result r = none := by
  simp [noted]

/-- More results change nothing in a sweep, if they are not those of its releases without a result. -/
theorem Sweep.noted_or {answer : Answer κ} {releases : List Nat} {result more : Nat → Option (Except ε Unit)}
    (foreign : ∀ r ∈ releases, result r = none → more r = none) :
    noted answer releases (fun r => (result r).or (more r)) = noted answer releases result := by
  rw [noted, noted]
  congr 1
  refine List.map_congr_left fun r listed => ?_
  cases known : result r with
  | some => rfl
  | none => rw [Option.none_or, foreign r listed known]

/-- The result of a release without one is noted. -/
theorem Sweep.note_noted {answer : Answer κ} {releases : List Nat} {result : Nat → Option (Except ε Unit)}
    {r : Nat} (fresh : result r = none) (ended : Except ε Unit) :
    (noted answer releases result).note r ended
      = noted answer releases fun r' => (result r').or (if r = r' then some ended else none) := by
  rw [note, noted, noted, List.map_map]
  congr 1
  refine List.map_congr_left fun r' _ => ?_
  by_cases hit : r' = r
  · subst hit
    simp [fresh]
  · simp [hit, Ne.symm hit]

/-- The verdict depends on the results of the releases only. -/
theorem verdict_congr {answer : Answer κ} {releases : List Nat} {f g : Nat → Option (Except ε Unit)}
    (same : ∀ r ∈ releases, f r = g r) : verdict answer releases f = verdict answer releases g := by
  have results : releases.map (fun r => (r, f r)) = releases.map fun r => (r, g r) :=
    List.map_congr_left fun r listed => by rw [same r listed]
  rw [← Sweep.outcome_noted, ← Sweep.outcome_noted, Sweep.noted, Sweep.noted, results]

/-- A sweep fails exactly with the failure of the first release that has failed. -/
theorem verdict_eq_error_iff {answer : Answer κ} {releases : List Nat}
    {result : Nat → Option (Except ε Unit)} {e : ε} :
    verdict answer releases result = .error e ↔ ∃ before r after, releases = before ++ r :: after ∧
      result r = some (.error e) ∧ ∀ r' ∈ before, ∀ e', result r' ≠ some (.error e') := by
  have failed {o : Option (Except ε Unit)} {e : ε} : failureOf? o = some e ↔ o = some (.error e) := by
    rcases o with _ | _ | _ <;> simp [failureOf?]
  have fine {o : Option (Except ε Unit)} : failureOf? o = none ↔ ∀ e, o ≠ some (.error e) := by
    rw [Option.eq_none_iff_forall_ne_some]
    simp only [ne_eq, failed]
  have first : (releases.findSome? fun r => failureOf? (result r)) = some e ↔
      ∃ before r after, releases = before ++ r :: after ∧ result r = some (.error e) ∧
        ∀ r' ∈ before, ∀ e', result r' ≠ some (.error e') := by
    rw [List.findSome?_eq_some_iff]
    simp only [failed, fine]
  rw [← first, verdict]
  cases releases.findSome? fun r => failureOf? (result r) <;> simp

variable [DecidableEq κ]
variable {c c' : ClientCache ρ κ ε} {a : Action ρ κ ε} {es : List (Effect ρ κ ε)}

/-- **The result of a release** in a run: the first one that it is ended with. -/
def result? (c : ClientCache ρ κ ε) (r : Nat) : List (Input ρ κ ε) → Option (Except ε Unit)
  | [] => none
  | i :: inputs => ((c.occasion i).2.resultOf? r).or ((c.step i).1.result? r inputs)

/-- One more input may bring a result, if there is none yet. -/
theorem result?_concat (c : ClientCache ρ κ ε) (r : Nat) (l : List (Input ρ κ ε)) (i : Input ρ κ ε) :
    c.result? r (l ++ [i]) = (c.result? r l).or (((c.after l).occasion i).2.resultOf? r) := by
  induction l generalizing c with
  | nil => rw [List.nil_append, result?, result?, result?, Option.or_none, Option.none_or]; rfl
  | cons j l ih => rw [List.cons_append, result?, result?, ih, Option.or_assoc]; rfl

/-- A result stays as it is. -/
theorem result?_append_of_some {r : Nat} {l : List (Input ρ κ ε)} {result : Except ε Unit}
    (known : c.result? r l = some result) (m : List (Input ρ κ ε)) : c.result? r (l ++ m) = some result := by
  induction m using List.reverseRecOn with
  | nil => rw [List.append_nil, known]
  | append_singleton m i ih => rw [← List.append_assoc, result?_concat, ih, Option.some_or]

section
variable {releases : List Nat} {l : List (Input ρ κ ε)} (all : ∀ r ∈ releases, c.result? r l ≠ none)
include all

/-- Results that are all there stay as they are. -/
theorem result?_append (m : List (Input ρ κ ε)) : ∀ r ∈ releases, c.result? r (l ++ m) = c.result? r l := by
  intro r listed
  obtain ⟨result, known⟩ := Option.ne_none_iff_exists'.1 (all r listed)
  rw [result?_append_of_some known, known]

/-- A verdict stays as it is. -/
theorem verdict_append (answer : Answer κ) (m : List (Input ρ κ ε)) :
    verdict answer releases (fun r => c.result? r (l ++ m)) = verdict answer releases fun r => c.result? r l :=
  verdict_congr (result?_append all m)

end

/-- **Where there is a dispose hook**, releases end with what the surroundings report. -/
theorem result?_eq_findSome? (h : c.Orderly) (hook : c.disposes = true) (r : Nat) (inputs : List (Input ρ κ ε)) :
    c.result? r inputs = inputs.findSome? (Input.resultOf? r) := by
  induction inputs generalizing c with
  | nil => rfl
  | cons i inputs ih =>
    obtain ⟨jobs, move⟩ := exists_move h.sound i
    rw [result?, ih (h.step i) (move.disposes.trans hook), List.findSome?_cons]
    have same : (c.occasion i).2.resultOf? r = i.resultOf? r := by
      cases i with
      | resume =>
        rw [occasion]
        split
        · rfl
        · next job jobs list =>
          cases job with
          | release n =>
            -- no release ends by itself
            have idle := h.live.ends_hookless n (by simp [list])
            simp [hook] at idle
          | _ => rfl
      | _ => rfl
    rw [same]
    cases i.resultOf? r <;> rfl

/-- A release fails only with a failure that the surroundings report. -/
theorem released_of_result? {r : Nat} {inputs : List (Input ρ κ ε)} {failure : ε}
    (failed : c.result? r inputs = some (.error failure)) : .released r (.error failure) ∈ inputs := by
  induction inputs generalizing c with
  | nil => cases failed
  | cons i inputs ih =>
    rw [result?, Option.or_eq_some_iff] at failed
    rcases failed with now | ⟨-, later⟩
    · cases i with
      | released n outcome =>
        by_cases own : n = r <;> simp [occasion, Action.resultOf?, own] at now
        rw [own, now]
        exact List.mem_cons_self
      | resume =>
        rw [occasion] at now
        split at now
        · cases now
        · next job jobs list =>
          cases job with
          | release n => by_cases own : n = r <;> simp [Job.action, Action.resultOf?, own] at now
          | _ => cases now
      | _ => cases now
    · exact List.mem_cons_of_mem _ (ih later)

/-! ## Sweeps in a run -/

/-- **A sweep notes the results of its releases** until it is concluded. -/
theorem Move.notes (m : Move c a c' es) (attended : c.Attended) (live : c.LiveDuring a)
    (sweeping : c.SweepingDuring a) {n : Nat} {answer : Answer κ} {releases : List Nat}
    {result : Nat → Option (Except ε Unit)}
    (here : c.sweeps.get? n = some (.noted answer releases result)) (other : a ≠ .conclude n) :
    c'.sweeps.get? n = some (.noted answer releases fun r => (result r).or (a.resultOf? r)) := by
  -- a release without a result is outstanding, for this sweep
  have outstanding : ∀ r ∈ releases, result r = none → c.owners.get? r = some (.sweep n) :=
    fun r listed none => live.open_owned n _ r here (Sweep.mem_noted.2 ⟨listed, none⟩)
  -- so that no other result has any bearing
  have unchanged (foreign : ∀ r, c.owners.get? r = some (.sweep n) → a.resultOf? r = none) :
      some (Sweep.noted answer releases result)
        = some (Sweep.noted answer releases fun r => (result r).or (a.resultOf? r)) :=
    congrArg some (Sweep.noted_or fun r listed none => foreign r (outstanding r listed none)).symm
  have unrelated {r₀ : Nat} {ended : Except ε Unit} (apart : c.owners.get? r₀ ≠ some (.sweep n)) (r : Nat)
      (own : c.owners.get? r = some (.sweep n)) :
      (Action.released r₀ ended : Action ρ κ ε).resultOf? r = none := by
    refine if_neg ?_
    rintro rfl
    exact apart own
  have old := attended.sweep_lt n _ here
  cases m with
  | @noted r₀ call ended s owned sweeps =>
    rw [Table.get?_insert]
    split
    · next own =>
      subst own
      obtain rfl := Option.some.inj (here.symm.trans sweeps)
      obtain ⟨s, sweeps', still⟩ := sweeping.owned_open r₀ n owned
      obtain rfl := Option.some.inj (here.symm.trans sweeps')
      rw [Sweep.note_noted (Sweep.mem_noted.1 still).2]
      rfl
    · next apart =>
      refine here.trans (unchanged (unrelated fun own => ?_))
      exact apart (Owner.sweep.inj (Option.some.inj (own.symm.trans owned)))
  | connected owned | replaced owned | aborted owned =>
    refine here.trans (unchanged (unrelated fun own => ?_))
    cases owned.symm.trans own
  | @forgotten _ call _ owned ended =>
    refine here.trans (unchanged (unrelated fun own => ?_))
    obtain rfl := Owner.sweep.inj (Option.some.inj (owned.symm.trans own))
    simp [ended] at here
  | evicted =>
    rw [Table.get?_insert, if_neg (Nat.ne_of_lt old)]
    exact here.trans (unchanged fun _ _ => rfl)
  | @swept call _ _ waits =>
    have apart : n ≠ call := by
      rintro rfl
      simp [attended.waiting_sweep n _ waits] at here
    rw [Table.get?_insert, if_neg apart]
    exact here.trans (unchanged fun _ _ => rfl)
  | @concluded call =>
    have apart : n ≠ call := by
      rintro rfl
      exact other rfl
    rw [Table.get?_erase, if_neg apart]
    exact here.trans (unchanged fun _ _ => rfl)
  | idle nothing =>
    refine here.trans (unchanged fun r own => ?_)
    cases a with
    | released r₀ ended => exact unrelated (fun own => by cases nothing.symm.trans own) r own
    | _ => rfl
  | _ => exact here.trans (unchanged fun _ _ => rfl)

/-- In every run sweeps go with their releases throughout. -/
theorem Sweeping.after (h : c.Orderly) (sweeping : c.Sweeping) (inputs : List (Input ρ κ ε)) :
    (c.after inputs).Sweeping :=
  (Run.after_induction (P := fun c : ClientCache ρ κ ε => c.Orderly ∧ c.Sweeping) _ ⟨h, sweeping⟩
    (fun _ i h => ⟨h.1.step i, (step_move h.1.sound i).sweeping (h.1.occasion i).sound (h.1.occasion i).attended
      (Sweeping.occasion h.2 i)⟩) inputs).2

/-- A call that sweeps is not answered before it is concluded. -/
theorem Move.unconcluded (m : Move c a c' es) (attended : c.Attended) {n : Nat} {s : Sweep κ ε}
    (here : c.sweeps.get? n = some s) (other : a ≠ .conclude n) : outcomesOf n es = [] := by
  refine outcomesOf_eq_nil_iff.2 fun o answered => ?_
  rcases m.settled_cases answered with ⟨rfl, -⟩ | ⟨g, cr, -, -, under, caller, -⟩ | ⟨s, conclude, -⟩
  · exact Nat.lt_irrefl _ (attended.sweep_lt _ s here)
  · exact attended.sweep_apart n s g cr here under caller
  · exact other conclude

/-- A call that sweeps is answered when it is concluded. -/
theorem Move.concludes {n : Nat} (m : Move c (.conclude n) c' es) (attended : c.Attended) {s : Sweep κ ε}
    (here : c.sweeps.get? n = some s) : outcomesOf n es = [s.outcome] ∧ c'.Retired n := by
  have fate := m.sweep_fate attended here
  cases m with
  | concluded here' =>
    obtain rfl := Option.some.inj (here.symm.trans here')
    have one : outcomesOf n [(.settled n s.outcome : Effect ρ κ ε)] = [s.outcome] := by
      simp [outcomesOf, Effect.outcomeOf?]
    rcases fate with ⟨-, none⟩ | ⟨retired, -⟩
    · simp [one] at none
    · exact ⟨one, retired⟩
  | idle nothing => cases here.symm.trans nothing

/-- **What becomes of a call that sweeps.** It has no answer while it sweeps, and notes the results of its releases;
or it has been answered with its verdict, once, after all its releases have ended. -/
theorem swept_after (h : c.Orderly) (sweeping : c.Sweeping) {n : Nat} {answer : Answer κ}
    {releases : List Nat} (here : c.sweeps.get? n = some (.noted answer releases fun _ => none))
    (inputs : List (Input ρ κ ε)) :
    ((c.after inputs).sweeps.get? n = some (.noted answer releases fun r => c.result? r inputs) ∧
      outcomesOf n (c.asked inputs) = []) ∨
    ((c.after inputs).Retired n ∧ (∀ r ∈ releases, c.result? r inputs ≠ none) ∧
      outcomesOf n (c.asked inputs) = [verdict answer releases fun r => c.result? r inputs]) := by
  induction inputs using List.reverseRecOn with
  | nil => exact .inl ⟨here, rfl⟩
  | append_singleton l i ih =>
    have orderly := (h.after l).occasion i
    have move := step_move (h.after l).sound i
    have sweeps := Sweeping.occasion (sweeping.after h l) i
    obtain ⟨jobs, same⟩ := (c.after l).occasion_fst i
    rw [after_concat, asked_concat, outcomesOf_append]
    rcases ih with ⟨notes, none⟩ | ⟨retired, all, one⟩
    · -- it sweeps still: this move notes another result, or concludes the sweep
      have notes' : ((c.after l).occasion i).1.sweeps.get? n
          = some (.noted answer releases fun r => c.result? r l) := by
        rw [same]
        exact notes
      by_cases concluded : ((c.after l).occasion i).2 = .conclude n
      · have all := Sweep.isOver_noted.1 (sweeps.concludes_over n _ (.inr concluded) notes')
        rw [concluded] at move
        obtain ⟨one, retired⟩ := move.concludes orderly.attended notes'
        refine .inr ⟨retired, fun r listed => ?_, ?_⟩
        · rw [result?_append all [i] r listed]
          exact all r listed
        · rw [none, one, verdict_append all, Sweep.outcome_noted]
          rfl
      · refine .inl ⟨?_, ?_⟩
        · simp only [result?_concat]
          exact move.notes orderly.attended orderly.live sweeps notes' concluded
        · rw [none, move.unconcluded orderly.attended notes' concluded]
          rfl
    · -- who has been answered stays so, and no result changes any more
      have retired' : ((c.after l).occasion i).1.Retired n := by
        rw [same]
        exact retired.withJobs jobs
      obtain ⟨retired, no⟩ := move.retired retired'
      refine .inr ⟨retired, fun r listed => ?_, ?_⟩
      · rw [result?_append all [i] r listed]
        exact all r listed
      · rw [one, no, verdict_append all]
        rfl

/-- **A call that sweeps is answered** once all its releases have ended and the continuations on the list have
run. -/
theorem swept_turn (h : c.Orderly) (sweeping : c.Sweeping) {n : Nat} {answer : Answer κ}
    {releases : List Nat} (here : c.sweeps.get? n = some (.noted answer releases fun _ => none))
    {l m : List (Input ρ κ ε)} (all : ∀ r ∈ releases, c.result? r l ≠ none)
    (enough : (c.after l).jobs.length ≤ resumes m) :
    outcomesOf n (c.asked (l ++ m)) = [verdict answer releases fun r => c.result? r l] := by
  -- an answer is the verdict, and stays the only one
  have answered (m₁ m₂ : List (Input ρ κ ε)) (some : outcomesOf n (c.asked (l ++ m₁)) ≠ []) :
      outcomesOf n (c.asked (l ++ (m₁ ++ m₂))) = [verdict answer releases fun r => c.result? r l] := by
    rcases swept_after h sweeping here (l ++ (m₁ ++ m₂)) with ⟨-, none⟩ | ⟨-, -, one⟩
    · rw [← List.append_assoc, asked_append, outcomesOf_append, List.append_eq_nil_iff] at none
      exact absurd none.1 some
    · rw [one, verdict_append all]
  rcases swept_after h sweeping here l with ⟨notes, -⟩ | ⟨-, -, one⟩
  · have complete : Sweep.isOver (.noted answer releases fun r => c.result? r l) = true := Sweep.isOver_noted.2 all
    have soon := ((h.after l).live.over_concludes n _ notes complete).resolve_right (by simp)
    obtain ⟨m₁, m₂, jobs, rfl, turn⟩ := exists_turn_of_mem (h.after l).sound soon enough
    rw [← after_append] at turn
    rcases swept_after h sweeping here (l ++ m₁) with ⟨notes', -⟩ | ⟨-, -, one⟩
    · -- when the continuation has its turn, the call is answered
      have orderly := (h.after (l ++ m₁)).occasion .resume
      have move := step_move (h.after (l ++ m₁)).sound .resume
      rw [occasion, turn] at orderly move
      obtain ⟨one, -⟩ := move.concludes orderly.attended notes'
      have parts : m₁ ++ .resume :: m₂ = (m₁ ++ [.resume]) ++ m₂ := by simp
      rw [parts]
      refine answered _ m₂ ?_
      rw [← List.append_assoc, asked_concat, outcomesOf_append, one]
      simp
    · exact answered m₁ (.resume :: m₂) (by simp [one])
  · have now := answered [] m (by simp [one])
    rwa [List.nil_append] at now

/-! ## What the end of a release changes -/

/-- **The end of a release of a sweep changes nothing but the sweep**, whether the release has succeeded or
failed. -/
theorem Move.ends_quietly {r : Nat} {result : Except ε Unit} (m : Move c (.released r result) c' es)
    (own : ∀ g, c.owners.get? r ≠ some (.creation g)) :
    c'.entries = c.entries ∧ c'.detached = c.detached ∧ c'.flights = c.flights ∧
      c'.creations = c.creations ∧ es = [] := by
  cases m with
  | connected owned | replaced owned | aborted owned => exact absurd owned (own _)
  | _ => exact ⟨rfl, rfl, rfl, rfl, rfl⟩

/-- A release belongs to its owner until it ends. -/
theorem owner_after (sound : c.Sound) {r : Nat} {o : Owner} (owned : c.owners.get? r = some o)
    (inputs : List (Input ρ κ ε)) {o' : Owner} (owned' : (c.after inputs).owners.get? r = some o') :
    o' = o := by
  refine (after_keeps (P := fun c => r < c.releases ∧ ∀ o', c.owners.get? r = some o' → o' = o)
    (fun _ _ h => h) ?_ sound ⟨sound.owner_lt r o owned, ?_⟩ inputs).2 o' owned'
  · rintro c a c' es sound move ⟨numbered, same⟩
    refine ⟨Nat.lt_of_lt_of_le numbered move.releases_le, fun o' owned' => ?_⟩
    rcases move.owner_origin sound owned' with ⟨before, -⟩ | ⟨new, -⟩
    · exact same o' before
    · exact absurd numbered (Nat.not_lt_of_le new)
  · intro o' owned'
    exact Option.some.inj (owned'.symm.trans owned)

/-! ## Clients that are stored no more -/

/-- **A creation whose client is stored no more**: it is over, and no stored client is from it. -/
structure Expelled (c : ClientCache ρ κ ε) (g : Nat) : Prop where
  /-- It has been started. -/
  numbered : g ≤ c.generation
  /-- It is over. -/
  ended : ∀ cr, c.creations.get? g = some cr → ¬ cr.InFlight
  /-- No stored client is from it. -/
  unstored : ∀ key e, c.entries.get? key = some e → e.generation ≠ g

/-- What is stored no more stays so. -/
theorem Expelled.after (sound : c.Sound) {g : Nat} (h : c.Expelled g) (inputs : List (Input ρ κ ε)) :
    (c.after inputs).Expelled g := by
  refine after_keeps (P := fun c => c.Expelled g) (fun _ _ h => ⟨h.numbered, h.ended, h.unstored⟩)
    ?_ sound h inputs
  rintro c a c' es - move h
  refine ⟨Nat.le_trans h.numbered move.generation_le, fun cr' under' unfinished => ?_, fun key e stored => ?_⟩
  · rcases move.inFlight_cases under' unfinished with ⟨cr, under, before, -⟩ | ⟨rfl, -⟩
    · exact h.ended cr under before
    · exact Nat.not_succ_le_self _ h.numbered
  · rcases move.entry_cases stored with before | ⟨cr, under, unfinished, -⟩
    · exact h.unstored key e before
    · rintro rfl
      exact h.ended cr under unfinished

/-- A stored client is stored under the key and with the fingerprint of its creation. -/
theorem stored_creation (disposes : Bool) {inputs : List (Input ρ κ ε)} {key : String} {e : Entry κ}
    (stored : ((empty disposes).after inputs).entries.get? key = some e) :
    ∃ l cr, l <+: inputs ∧ ((empty disposes).after l).creations.get? e.generation = some cr ∧
      cr.key = key ∧ cr.fingerprint = e.fingerprint := by
  induction inputs using List.reverseRecOn with
  | nil => cases stored
  | append_singleton l i ih =>
    obtain ⟨jobs, move⟩ := exists_move (sound_after disposes l) i
    rw [after_concat] at stored
    rcases move.entry_cases stored with before | ⟨cr, under, -, hkey, hfp, -⟩
    · obtain ⟨l₀, cr, part, under, same⟩ := ih before
      exact ⟨l₀, cr, part.trans (List.prefix_append ..), under, same⟩
    · exact ⟨l, cr, List.prefix_append .., under, hkey, hfp⟩

/-- **A stored client has been wanted with its fingerprint**, in the call that its create call was made for. -/
theorem wanted_of_stored (disposes : Bool) {inputs : List (Input ρ κ ε)} {key : String} {e : Entry κ}
    (stored : ((empty disposes).after inputs).entries.get? key = some e) {request : ρ}
    (asked : .create e.generation request ∈ (empty disposes).asked inputs) :
    .acquire key e.fingerprint request ∈ inputs := by
  obtain ⟨l, cr, part, under, rfl, same⟩ := stored_creation disposes stored
  obtain ⟨l', cr', part', under', rfl⟩ := creation_of_asked disposes asked
  have wanted := (sourced_after disposes l).wanted _ _ under
  obtain ⟨-, -, sameRequest⟩ := creation_eq disposes part part' under under'
  rw [← same, ← sameRequest]
  exact part.subset wanted

/-- A rotation expels the clients that it sweeps out of the store. -/
theorem expelled_of_stale (disposes : Bool) (inputs : List (Input ρ κ ε)) {key fp : String} {e : Entry κ}
    (stored : ((empty disposes).after inputs).entries.get? key = some e) (stale : e.fingerprint ≠ fp) :
    (((empty disposes).after inputs).step (.evictStale fp)).1.Expelled e.generation := by
  have sound := sound_after (ρ := ρ) (κ := κ) (ε := ε) disposes inputs
  have move := step_move sound (.evictStale fp)
  have finished := storedFinished_after (ρ := ρ) (κ := κ) (ε := ε) disposes inputs
  generalize (((empty disposes).after inputs).step (.evictStale fp)).1 = c' at move ⊢
  generalize (((empty disposes).after inputs).step (.evictStale fp)).2 = es at move
  cases move with
  | evicted =>
    refine ⟨sound.entry_le key e stored, fun cr under => ?_, fun key' e' stored' same => ?_⟩
    · have ended := (finished key e cr stored under).2.2
      exact fun unfinished => unfinished _ ended
    · rw [Table.get?_filter, Option.filter_eq_some_iff] at stored'
      obtain ⟨stored', current⟩ := stored'
      obtain ⟨l, cr, part, under, rfl, -⟩ := stored_creation disposes stored
      obtain ⟨l', cr', part', under', rfl, -⟩ := stored_creation disposes stored'
      rw [same] at under'
      rw [key_eq disposes part' part under' under] at stored'
      obtain rfl := Option.some.inj (stored.symm.trans stored')
      exact stale (by simpa using current)
  | idle nothing => exact nothing.elim

end ServiceAccess.ClientCache

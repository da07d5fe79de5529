import ServiceAccess.Proofs.ClientCache.Run

/-! # The calls of a client cache

A call that is not answered at once is attended: a creation has it among its callers, or it waits to
sweep, or it sweeps.

* **`Attended`**: every call is attended by one party at most, and calls that have not been made by none.
  Every run keeps this (`Attended.after`).
* **`Move.caller_origin`**, **`Move.waiting_origin`**, **`Move.sweep_origin`**: where the parties come from.
* **`Move.settled_cases`**: who can answer a call.
* **`SettlesWith`**: a call shares the fate of a creation. `settlesWith_of_caller` says that the callers
  of a creation do: each of them is answered once, with the outcome of the creation. -/

namespace ServiceAccess.ClientCache

variable {ρ κ ε : Type}

/-! ## Attended calls -/

/-- **A call is attended by one party at most.** -/
structure Attended (c : ClientCache ρ κ ε) : Prop where
  /-- The callers of a creation are calls. -/
  caller_lt : ∀ g cr n, c.creations.get? g = some cr → n ∈ cr.callers → n < c.calls
  /-- A creation has a caller once. -/
  caller_once : ∀ g cr, c.creations.get? g = some cr → cr.callers.Nodup
  /-- A call waits for one creation at most. -/
  caller_unique : ∀ g g' cr cr' n, c.creations.get? g = some cr → c.creations.get? g' = some cr' →
    n ∈ cr.callers → n ∈ cr'.callers → g = g'
  /-- A sweep belongs to a call. -/
  sweep_lt : ∀ n s, c.sweeps.get? n = some s → n < c.calls
  /-- What waits to sweep is a call. -/
  waiting_lt : ∀ n w, c.waiting.get? n = some w → n < c.calls
  /-- A call that sweeps waits for no creation. -/
  sweep_apart : ∀ n s g cr, c.sweeps.get? n = some s → c.creations.get? g = some cr →
    n ∉ cr.callers
  /-- A call that waits to sweep waits for no creation. -/
  waiting_apart : ∀ n w g cr, c.waiting.get? n = some w → c.creations.get? g = some cr →
    n ∉ cr.callers
  /-- A call that waits to sweep does not sweep yet. -/
  waiting_sweep : ∀ n w, c.waiting.get? n = some w → c.sweeps.get? n = none

/-- The empty cache attends no call. -/
theorem attended_empty (disposes : Bool) : Attended (.empty disposes : ClientCache ρ κ ε) := by
  constructor <;> simp [empty]

/-- Which calls are attended does not depend on the continuations. -/
theorem Attended.withJobs {c : ClientCache ρ κ ε} (h : c.Attended) (jobs : List Job) :
    Attended { c with jobs := jobs } :=
  ⟨h.caller_lt, h.caller_once, h.caller_unique, h.sweep_lt, h.waiting_lt, h.sweep_apart,
    h.waiting_apart, h.waiting_sweep⟩

section
variable {c : ClientCache ρ κ ε} (h : c.Attended)
include h

/-- The call that is made next is no caller yet. -/
theorem Attended.next_uncalled {g : Nat} {cr : Creation ρ κ ε} (under : c.creations.get? g = some cr) :
    c.calls ∉ cr.callers :=
  fun here => Nat.lt_irrefl _ (h.caller_lt g cr _ under here)

/-- The call that is made next does not sweep yet. -/
theorem Attended.next_unswept : c.sweeps.get? c.calls = none :=
  Option.eq_none_iff_forall_ne_some.2 fun s sweeping => Nat.lt_irrefl _ (h.sweep_lt _ s sweeping)

/-- The call that is made next does not wait to sweep yet. -/
theorem Attended.next_unwaiting : c.waiting.get? c.calls = none :=
  Option.eq_none_iff_forall_ne_some.2 fun w waits => Nat.lt_irrefl _ (h.waiting_lt _ w waits)

/-- A call that sweeps does not wait to sweep any more. -/
theorem Attended.sweep_unwaiting {n : Nat} {s : Sweep κ ε} (sweeping : c.sweeps.get? n = some s) :
    c.waiting.get? n = none := by
  refine Option.eq_none_iff_forall_ne_some.2 fun w waits => ?_
  simp [h.waiting_sweep n w waits] at sweeping

end

variable [DecidableEq κ]
variable {c c' : ClientCache ρ κ ε} {a : Action ρ κ ε} {es : List (Effect ρ κ ε)}

/-- The number of calls does not fall. -/
theorem Move.calls_le (m : Move c a c' es) : c.calls ≤ c'.calls := by
  cases m <;> simp

/-- The number of calls does not fall in a run. -/
theorem calls_le_after (sound : c.Sound) (inputs : List (Input ρ κ ε)) :
    c.calls ≤ (c.after inputs).calls :=
  after_keeps (P := fun c' => c.calls ≤ c'.calls) (fun _ _ h => h)
    (fun _ _ _ _ _ m h => Nat.le_trans h m.calls_le) sound (Nat.le_refl _) inputs

/-- An action calls for a creation: the creation is the flight of its key. -/
def CallsFor (c : ClientCache ρ κ ε) (a : Action ρ κ ε) (g : Nat) : Prop :=
  ∃ key fp request, a = .acquire key fp request ∧ c.flights.get? key = some ⟨fp, g⟩

omit [DecidableEq κ] in
/-- An action calls for one creation at most. -/
theorem CallsFor.unique {g g' : Nat} (h : c.CallsFor a g) (h' : c.CallsFor a g') : g = g' := by
  obtain ⟨key, fp, request, rfl, flight⟩ := h
  obtain ⟨_, _, _, same, flight'⟩ := h'
  obtain ⟨rfl, rfl, rfl⟩ := Action.acquire.inj same
  exact congrArg Flight.generation (Option.some.inj (flight.symm.trans flight'))

/-- The callers of a creation after a move: old ones, and the call that is being made. -/
theorem Move.caller_cases (m : Move c a c' es) {g : Nat} {cr' : Creation ρ κ ε}
    (under : c'.creations.get? g = some cr') :
    (∃ cr, c.creations.get? g = some cr ∧ (cr'.callers = cr.callers ∨
      (cr'.callers = cr.callers ++ [c.calls] ∧ c'.calls = c.calls + 1 ∧ c'.CallsFor a g))) ∨
    (cr'.callers = [c.calls] ∧ c'.calls = c.calls + 1 ∧ c'.CallsFor a g) := by
  cases m with
  | joined _ flight under₀ =>
    rw [Table.get?_insert] at under
    split at under
    · subst g
      obtain rfl := Option.some.inj under
      exact .inl ⟨_, under₀, .inr ⟨rfl, rfl, _, _, _, rfl, flight⟩⟩
    · exact .inl ⟨cr', under, .inl rfl⟩
  | started | restarted =>
    rw [Table.get?_insert] at under
    split at under
    · subst g
      obtain rfl := Option.some.inj under
      exact .inr ⟨rfl, rfl, _, _, _, rfl, Table.get?_insert_self ..⟩
    · exact .inl ⟨cr', under, .inl rfl⟩
  -- a new stage leaves the callers alone
  | stored under₀ | superseded under₀ | replacing under₀ | failed under₀ | connected _ under₀
  | replaced _ under₀ | aborted _ under₀ =>
    rw [Table.get?_insert] at under
    split at under
    · subst g
      obtain rfl := Option.some.inj under
      exact .inl ⟨_, under₀, .inl rfl⟩
    · exact .inl ⟨cr', under, .inl rfl⟩
  | answered =>
    rw [Table.get?_erase] at under
    split at under
    · cases under
    · exact .inl ⟨cr', under, .inl rfl⟩
  | _ => exact .inl ⟨cr', under, .inl rfl⟩

/-- **Where a caller comes from**: it has called the creation before, or it is the call that is being made. -/
theorem Move.caller_origin (m : Move c a c' es) {g n : Nat} {cr' : Creation ρ κ ε}
    (under : c'.creations.get? g = some cr') (caller : n ∈ cr'.callers) :
    (∃ cr, c.creations.get? g = some cr ∧ n ∈ cr.callers) ∨
    (n = c.calls ∧ c'.calls = c.calls + 1 ∧ c'.CallsFor a g) := by
  rcases m.caller_cases under with ⟨cr, under₀, same | ⟨same, made⟩⟩ | ⟨same, made⟩
  · exact .inl ⟨cr, under₀, same ▸ caller⟩
  · rw [same, List.mem_append, List.mem_singleton] at caller
    rcases caller with old | rfl
    · exact .inl ⟨cr, under₀, old⟩
    · exact .inr ⟨rfl, made⟩
  · rw [same, List.mem_singleton] at caller
    exact .inr ⟨caller, made⟩

/-- **Who waits to sweep**: who has waited before and does not begin to sweep, or the clear call that is being made. -/
theorem Move.waiting_origin (m : Move c a c' es) {n : Nat} {w : Waiting} (waits : c'.waiting.get? n = some w) :
    ((∃ w, c.waiting.get? n = some w) ∧ a ≠ .sweep n) ∨ (n = c.calls ∧ c'.calls = c.calls + 1 ∧ a = .clear) := by
  cases m with
  | cleared =>
    rw [Table.get?_insert] at waits
    split at waits
    · next same => exact .inr ⟨same, rfl, rfl⟩
    · exact .inl ⟨⟨w, waits⟩, by simp⟩
  | answered =>
    rw [Table.get?_map, Option.map_eq_some_iff] at waits
    obtain ⟨w₀, waits, -⟩ := waits
    exact .inl ⟨⟨w₀, waits⟩, by simp⟩
  | swept =>
    rw [Table.get?_erase] at waits
    split at waits
    · cases waits
    · next other => exact .inl ⟨⟨w, waits⟩, fun same => other (Action.sweep.inj same).symm⟩
  | idle nothing =>
    refine .inl ⟨⟨w, waits⟩, ?_⟩
    rintro rfl
    simp [nothing] at waits
  | _ => exact .inl ⟨⟨w, waits⟩, by simp⟩

/-- **Who sweeps**: who has swept before, an eviction that is being called for, or a clear call that has waited. -/
theorem Move.sweep_origin (m : Move c a c' es) {n : Nat} {s : Sweep κ ε} (sweeping : c'.sweeps.get? n = some s) :
    (∃ s, c.sweeps.get? n = some s) ∨ (n = c.calls ∧ c'.calls = c.calls + 1 ∧ ∃ fp, a = .evictStale fp) ∨
      ((∃ w, c.waiting.get? n = some w) ∧ a = .sweep n) := by
  cases m with
  | evicted =>
    rw [Table.get?_insert] at sweeping
    split at sweeping
    · next same => exact .inr (.inl ⟨same, rfl, _, rfl⟩)
    · exact .inl ⟨s, sweeping⟩
  | swept waits =>
    rw [Table.get?_insert] at sweeping
    split at sweeping
    · subst n
      exact .inr (.inr ⟨⟨_, waits⟩, rfl⟩)
    · exact .inl ⟨s, sweeping⟩
  | noted _ before =>
    -- noting the end of a release changes a sweep and starts none
    rw [Table.get?_insert] at sweeping
    split at sweeping
    · subst n
      exact .inl ⟨_, before⟩
    · exact .inl ⟨s, sweeping⟩
  | concluded =>
    rw [Table.get?_erase] at sweeping
    split at sweeping
    · cases sweeping
    · exact .inl ⟨s, sweeping⟩
  | _ => exact .inl ⟨s, sweeping⟩

/-- **Every move keeps the calls attended**: only the call that is being made finds a new party, and a clear call leaves
the waiting room when it begins to sweep. -/
theorem Move.attended (m : Move c a c' es) (h : c.Attended) : c'.Attended where
  caller_lt g cr' n under caller := by
    rcases m.caller_origin under caller with ⟨cr, under₀, old⟩ | ⟨rfl, made, -⟩
    · exact Nat.lt_of_lt_of_le (h.caller_lt g cr n under₀ old) m.calls_le
    · exact made ▸ Nat.lt_succ_self _
  caller_once g cr' under := by
    rcases m.caller_cases under with ⟨cr, under₀, same | ⟨same, -⟩⟩ | ⟨same, -⟩
    · exact same ▸ h.caller_once g cr under₀
    · -- the call that is being made is none of the old callers
      rw [same, List.nodup_append]
      refine ⟨h.caller_once g cr under₀, List.nodup_singleton _, fun n old n' new => ?_⟩
      rw [List.mem_singleton.1 new]
      exact Nat.ne_of_lt (h.caller_lt g cr n under₀ old)
    · rw [same]
      exact List.nodup_singleton _
  caller_unique g g' cr₁ cr₂ n under under' caller caller' := by
    rcases m.caller_origin under caller with ⟨cr, under₀, old⟩ | ⟨rfl, -, wants⟩
    · rcases m.caller_origin under' caller' with ⟨cr', under₀', old'⟩ | ⟨rfl, -⟩
      · exact h.caller_unique g g' cr cr' n under₀ under₀' old old'
      · exact absurd old (h.next_uncalled under₀)
    · rcases m.caller_origin under' caller' with ⟨cr', under₀', old'⟩ | ⟨-, -, wants'⟩
      · exact absurd old' (h.next_uncalled under₀')
      · exact wants.unique wants'
  sweep_lt n s sweeping := by
    rcases m.sweep_origin sweeping with ⟨s₀, before⟩ | ⟨rfl, made, -⟩ | ⟨⟨w, waits⟩, -⟩
    · exact Nat.lt_of_lt_of_le (h.sweep_lt n s₀ before) m.calls_le
    · exact made ▸ Nat.lt_succ_self _
    · exact Nat.lt_of_lt_of_le (h.waiting_lt n w waits) m.calls_le
  waiting_lt n w waits := by
    rcases m.waiting_origin waits with ⟨⟨w₀, before⟩, -⟩ | ⟨rfl, made, -⟩
    · exact Nat.lt_of_lt_of_le (h.waiting_lt n w₀ before) m.calls_le
    · exact made ▸ Nat.lt_succ_self _
  sweep_apart n s g cr' sweeping under caller := by
    rcases m.caller_origin under caller with ⟨cr, under₀, old⟩ | ⟨rfl, -, key, fp, request, rfl, -⟩
    · rcases m.sweep_origin sweeping with ⟨s₀, before⟩ | ⟨rfl, -⟩ | ⟨⟨w, waits⟩, -⟩
      · exact h.sweep_apart n s₀ g cr before under₀ old
      · exact h.next_uncalled under₀ old
      · -- who begins to sweep has waited, and has been no caller then
        exact h.waiting_apart n w g cr waits under₀ old
    · rcases m.sweep_origin sweeping with ⟨s₀, before⟩ | ⟨-, -, _, ⟨⟩⟩ | ⟨-, ⟨⟩⟩
      exact absurd (h.sweep_lt _ s₀ before) (Nat.lt_irrefl _)
  waiting_apart n w g cr' waits under caller := by
    rcases m.caller_origin under caller with ⟨cr, under₀, old⟩ | ⟨rfl, -, key, fp, request, rfl, -⟩
    · rcases m.waiting_origin waits with ⟨⟨w₀, before⟩, -⟩ | ⟨rfl, -⟩
      · exact h.waiting_apart n w₀ g cr before under₀ old
      · exact h.next_uncalled under₀ old
    · rcases m.waiting_origin waits with ⟨⟨w₀, before⟩, -⟩ | ⟨-, -, ⟨⟩⟩
      exact absurd (h.waiting_lt _ w₀ before) (Nat.lt_irrefl _)
  waiting_sweep n w waits := by
    refine Option.eq_none_iff_forall_ne_some.2 fun s sweeping => ?_
    rcases m.waiting_origin waits with ⟨⟨w₀, before⟩, stays⟩ | ⟨rfl, -, rfl⟩
    · rcases m.sweep_origin sweeping with ⟨s₀, swept⟩ | ⟨rfl, -⟩ | ⟨-, begins⟩
      · simp [h.waiting_sweep n w₀ before] at swept
      · exact absurd (h.waiting_lt _ w₀ before) (Nat.lt_irrefl _)
      · exact stays begins
    · rcases m.sweep_origin sweeping with ⟨s₀, swept⟩ | ⟨-, -, _, ⟨⟩⟩ | ⟨-, ⟨⟩⟩
      exact absurd (h.sweep_lt _ s₀ swept) (Nat.lt_irrefl _)

/-- **Every run attends every call by one party at most.** -/
theorem Attended.after (sound : c.Sound) (h : c.Attended) (inputs : List (Input ρ κ ε)) :
    (c.after inputs).Attended :=
  after_keeps (P := Attended) (fun _ l h => h.withJobs l) (fun _ _ _ _ _ m h => m.attended h) sound h
    inputs

/-- Every run of the empty cache attends every call by one party at most throughout. -/
theorem attended_after (disposes : Bool) (inputs : List (Input ρ κ ε)) :
    ((empty disposes).after inputs).Attended :=
  (attended_empty disposes).after (sound_empty disposes) inputs

/-! ## Answered calls -/

/-- The outcome that an effect answers a call with. -/
def Effect.outcomeOf? (call : Nat) : Effect ρ κ ε → Option (Except ε (Answer κ))
  | .settled n outcome => if n = call then some outcome else none
  | _ => none

/-- The outcomes that effects answer a call with, in order. -/
def outcomesOf (call : Nat) (es : List (Effect ρ κ ε)) : List (Except ε (Answer κ)) :=
  es.filterMap (Effect.outcomeOf? call)

omit [DecidableEq κ] in
theorem outcomesOf_append (call : Nat) (es fs : List (Effect ρ κ ε)) :
    outcomesOf call (es ++ fs) = outcomesOf call es ++ outcomesOf call fs :=
  List.filterMap_append ..

omit [DecidableEq κ] in
/-- A call gets an outcome exactly when some effect answers it so. -/
theorem mem_outcomesOf {call : Nat} {es : List (Effect ρ κ ε)} {o : Except ε (Answer κ)} :
    o ∈ outcomesOf call es ↔ .settled call o ∈ es := by
  simp only [outcomesOf, List.mem_filterMap]
  constructor
  · rintro ⟨e, here, same⟩
    cases e <;> simp_all [Effect.outcomeOf?]
  · exact fun here => ⟨_, here, by simp [Effect.outcomeOf?]⟩

omit [DecidableEq κ] in
/-- A call gets no outcome exactly when no effect answers it. -/
theorem outcomesOf_eq_nil_iff {call : Nat} {es : List (Effect ρ κ ε)} :
    outcomesOf call es = [] ↔ ∀ o, .settled call o ∉ es := by
  simp only [List.eq_nil_iff_forall_not_mem, mem_outcomesOf]

omit [DecidableEq κ] in
/-- The releases that a sweep starts answer no call. -/
theorem settled_not_mem_sweepEffects (clients : List κ) (n : Nat) (o : Except ε (Answer κ)) :
    .settled n o ∉ c.sweepEffects clients := by
  rw [sweepEffects]
  split <;> simp

omit [DecidableEq κ] in
/-- The start of a release answers no call. -/
theorem settled_not_mem_releaseEffects (x : κ) (n : Nat) (o : Except ε (Answer κ)) :
    .settled n o ∉ c.releaseEffects x := by
  rw [releaseEffects]
  split <;> simp

/-- **Who can answer a call.** A stored client answers the call that is being made; else a creation
answers one of its callers, or a sweep answers its own call. -/
theorem Move.settled_cases (m : Move c a c' es) {n : Nat} {o : Except ε (Answer κ)}
    (here : .settled n o ∈ es) :
    (n = c.calls ∧ ∃ key fp request e, a = .acquire key fp request ∧
      c.entries.get? key = some e ∧ e.fingerprint = fp ∧ o = .ok (.client e.client)) ∨
    (∃ g cr outcome, a = .answer g ∧ c.creations.get? g = some cr ∧ n ∈ cr.callers ∧
      cr.stage = .finished outcome ∧ o = outcome.map .client) ∨
    (∃ s, a = .conclude n ∧ c.sweeps.get? n = some s ∧ o = s.outcome) := by
  cases m with
  | hit stored same =>
    simp only [List.mem_cons, reduceCtorEq, Effect.settled.injEq, List.not_mem_nil, or_false,
      false_or] at here
    exact .inl ⟨here.1, _, _, _, _, rfl, stored, same, here.2⟩
  | @answered g outcome cr under stage =>
    simp only [List.mem_map, Effect.settled.injEq] at here
    obtain ⟨n, caller, rfl, rfl⟩ := here
    exact .inr (.inl ⟨g, cr, outcome, rfl, under, caller, stage, rfl⟩)
  | concluded sweeping =>
    simp only [List.mem_singleton, Effect.settled.injEq] at here
    obtain ⟨rfl, rfl⟩ := here
    exact .inr (.inr ⟨_, rfl, sweeping, rfl⟩)
  -- all other moves report and release
  | restarted | replacing => simp [settled_not_mem_releaseEffects] at here
  | evicted => exact (settled_not_mem_sweepEffects _ _ _ here).elim
  | swept =>
    rw [List.mem_append] at here
    rcases here with here | here
    · split at here <;> simp at here
    · exact (settled_not_mem_sweepEffects _ _ _ here).elim
  | _ => simp at here

/-! ## Callers of a creation -/

/-- A call that has been answered: nothing attends it any more. -/
structure Retired (c : ClientCache ρ κ ε) (n : Nat) : Prop where
  /-- It has been made. -/
  lt : n < c.calls
  /-- It waits for no creation. -/
  uncalled : ∀ g cr, c.creations.get? g = some cr → n ∉ cr.callers
  /-- It does not sweep. -/
  unswept : c.sweeps.get? n = none
  /-- It does not wait to sweep. -/
  unwaiting : c.waiting.get? n = none

omit [DecidableEq κ] in
/-- Whether a call has been answered does not depend on the continuations. -/
theorem Retired.withJobs {n : Nat} (h : c.Retired n) (jobs : List Job) :
    Retired { c with jobs := jobs } n :=
  ⟨h.lt, h.uncalled, h.unswept, h.unwaiting⟩

/-- An answered call stays answered, and is not answered again. -/
theorem Move.retired (m : Move c a c' es) {n : Nat} (h : c.Retired n) :
    c'.Retired n ∧ outcomesOf n es = [] := by
  -- the call has been made before, so it is not the one that is being made
  have made : n ≠ c.calls := Nat.ne_of_lt h.lt
  have uncalled : ∀ g cr', c'.creations.get? g = some cr' → n ∉ cr'.callers := by
    intro g cr' under caller
    rcases m.caller_origin under caller with ⟨cr, under₀, old⟩ | ⟨new, -⟩
    · exact h.uncalled g cr under₀ old
    · exact made new
  have unswept : ∀ s, c'.sweeps.get? n ≠ some s := by
    intro s sweeping
    rcases m.sweep_origin sweeping with ⟨s₀, before⟩ | ⟨new, -⟩ | ⟨⟨w, waits⟩, -⟩
    · simp [h.unswept] at before
    · exact made new
    · simp [h.unwaiting] at waits
  have unwaiting : ∀ w, c'.waiting.get? n ≠ some w := by
    intro w waits
    rcases m.waiting_origin waits with ⟨⟨w₀, before⟩, -⟩ | ⟨new, -⟩
    · simp [h.unwaiting] at before
    · exact made new
  refine ⟨⟨Nat.lt_of_lt_of_le h.lt m.calls_le, uncalled, Option.eq_none_iff_forall_ne_some.2 unswept,
    Option.eq_none_iff_forall_ne_some.2 unwaiting⟩, outcomesOf_eq_nil_iff.2 fun o here => ?_⟩
  rcases m.settled_cases here with ⟨rfl, -⟩ | ⟨g, cr, -, -, under, caller, -⟩ | ⟨s, -, sweeping, -⟩
  · exact made rfl
  · exact h.uncalled g cr under caller
  · simp [h.unswept] at sweeping

omit [DecidableEq κ] in
/-- Answering some callers answers a call as often as it is among them. -/
theorem outcomesOf_callers (n : Nat) (callers : List Nat) (o : Except ε (Answer κ)) :
    outcomesOf n (callers.map fun call => (.settled call o : Effect ρ κ ε))
      = List.replicate (callers.count n) o := by
  induction callers with
  | nil => rfl
  | cons call callers ih =>
    simp only [outcomesOf] at ih
    by_cases same : call = n <;>
      simp [outcomesOf, Effect.outcomeOf?, ih, same, List.replicate_succ]

/-- What becomes of a caller of a creation in one move: it stays one and gets no answer, or it is answered
with the outcome of the creation. -/
theorem Move.caller_fate (m : Move c a c' es) (sound : c.Sound) (h : c.Attended) {n g : Nat}
    {cr : Creation ρ κ ε} (under : c.creations.get? g = some cr) (caller : n ∈ cr.callers) :
    (∃ cr', c'.creations.get? g = some cr' ∧ n ∈ cr'.callers ∧ outcomesOf n es = []) ∨
      (∃ outcome, cr.stage = .finished outcome ∧ outcomesOf n es = [outcome.map .client] ∧
        c'.Retired n) := by
  rcases m.continues sound under with ⟨cr', under', later⟩ | ⟨-, rfl, outcome, stage, asked⟩
  · refine .inl ⟨cr', under', later.callers.subset caller, ?_⟩
    refine outcomesOf_eq_nil_iff.2 fun o here => ?_
    rcases m.settled_cases here with
        ⟨rfl, -⟩ | ⟨g₁, cr₁, o₁, rfl, under₁, caller₁, stage₁, -⟩ | ⟨s, -, sweeping, -⟩
    · exact h.next_uncalled under caller
    · -- only `g` itself answers its callers, and then it is gone
      obtain rfl := h.caller_unique g g₁ cr cr₁ n under under₁ caller caller₁
      obtain rfl := Option.some.inj (under.symm.trans under₁)
      cases m with
      | answered => simp at under'
      | idle nothing => exact nothing cr o₁ under stage₁
    · exact h.sweep_apart n s g cr sweeping under caller
  · refine .inr ⟨outcome, stage, ?_, ?_⟩
    · rw [asked, outcomesOf_callers, List.count_eq_one_of_mem (h.caller_once g cr under) caller,
        List.replicate_one]
    · cases m with
      | answered under₁ =>
        obtain rfl := Option.some.inj (under.symm.trans under₁)
        -- it is a caller of this creation only, and neither waits nor sweeps
        refine ⟨h.caller_lt g cr n under caller, fun g' cr' under' caller' => ?_, ?_, ?_⟩
        · rw [Table.get?_erase] at under'
          split at under'
          · cases under'
          · next other => exact other (h.caller_unique g' g cr' cr n under' under caller' caller)
        · exact Option.eq_none_iff_forall_ne_some.2 fun s here => h.sweep_apart n s g cr here under caller
        · rw [Table.get?_map, Option.map_eq_none_iff]
          exact Option.eq_none_iff_forall_ne_some.2 fun w here => h.waiting_apart n w g cr here under caller
      | idle nothing => exact (nothing cr outcome under stage).elim

/-- **No answered call is answered again.** -/
theorem Retired.after (sound : c.Sound) {n : Nat} (h : c.Retired n) (inputs : List (Input ρ κ ε)) :
    (c.after inputs).Retired n ∧ outcomesOf n (c.asked inputs) = [] := by
  induction inputs using List.reverseRecOn with
  | nil => exact ⟨h, rfl⟩
  | append_singleton l i ih =>
    obtain ⟨retired, none⟩ := ih
    obtain ⟨jobs, move⟩ := exists_move (sound.after l) i
    obtain ⟨retired', no⟩ := move.retired (retired.withJobs jobs)
    rw [after_concat, asked_concat, outcomesOf_append, none, no]
    exact ⟨retired', rfl⟩

/-- **What becomes of a call for a client**: it is answered at once with a stored client, or it is a
caller of a creation for its key and fingerprint. -/
theorem Move.acquire_cases {key fp : String} {request : ρ} (m : Move c (.acquire key fp request) c' es)
    (h : c.Attended) (sound : c.Sound) :
    (∃ e, c.entries.get? key = some e ∧ e.fingerprint = fp ∧ c'.Retired c.calls ∧
      outcomesOf c.calls es = [.ok (.client e.client)]) ∨
    (∃ g cr, c'.creations.get? g = some cr ∧ cr.key = key ∧ cr.fingerprint = fp ∧
      c.calls ∈ cr.callers ∧ outcomesOf c.calls es = []) := by
  cases m with
  | @hit _ _ _ e stored same =>
    refine .inl ⟨e, stored, same, ⟨Nat.lt_succ_self _, ?_, h.next_unswept, h.next_unwaiting⟩, ?_⟩
    · exact fun g cr under => h.next_uncalled under
    · simp [outcomesOf, List.filterMap_cons, Effect.outcomeOf?]
  -- the flight of a sound cache is a creation for the key and fingerprint
  | @joined _ _ _ g cr unusable flight under =>
    obtain ⟨cr₀, under₀, same, same'⟩ := sound.flight_creation key _ flight
    obtain rfl := Option.some.inj (under.symm.trans under₀)
    exact .inr ⟨g, _, Table.get?_insert_self .., same, same', by simp, rfl⟩
  | started | restarted =>
    refine .inr ⟨c.generation + 1, _, Table.get?_insert_self .., rfl, rfl, by simp, ?_⟩
    refine outcomesOf_eq_nil_iff.2 fun o here => ?_
    simp [settled_not_mem_releaseEffects] at here
  | idle nothing => exact nothing.elim

/-- **A call shares the fate of a creation.** However the run goes on, the call is one of the callers of
the creation and has no answer, or it has been answered once, with the outcome that the creation came
to. -/
def SettlesWith (c : ClientCache ρ κ ε) (n g : Nat) : Prop :=
  ∀ inputs : List (Input ρ κ ε),
    (∃ cr, (c.after inputs).creations.get? g = some cr ∧ n ∈ cr.callers ∧
      outcomesOf n (c.asked inputs) = []) ∨
    (∃ earlier cr outcome, earlier <+: inputs ∧ (c.after earlier).creations.get? g = some cr ∧
      cr.stage = .finished outcome ∧ outcomesOf n (c.asked inputs) = [outcome.map .client])

/-- **The callers of a creation share its fate.** -/
theorem settlesWith_of_caller (sound : c.Sound) (h : c.Attended) {g n : Nat} {cr : Creation ρ κ ε}
    (under : c.creations.get? g = some cr) (caller : n ∈ cr.callers) : c.SettlesWith n g := by
  intro inputs
  -- an answered call is besides known to be retired, which keeps it from a second answer
  suffices fate : (∃ cr, (c.after inputs).creations.get? g = some cr ∧ n ∈ cr.callers ∧
        outcomesOf n (c.asked inputs) = []) ∨
      ((c.after inputs).Retired n ∧ ∃ earlier cr outcome, earlier <+: inputs ∧
        (c.after earlier).creations.get? g = some cr ∧ cr.stage = .finished outcome ∧
        outcomesOf n (c.asked inputs) = [outcome.map .client]) from fate.imp_right And.right
  induction inputs using List.reverseRecOn with
  | nil => exact .inl ⟨cr, under, caller, rfl⟩
  | append_singleton l i ih =>
    have more : outcomesOf n (c.asked (l ++ [i]))
        = outcomesOf n (c.asked l) ++ outcomesOf n ((c.after l).step i).2 := by
      rw [asked_concat, outcomesOf_append]
    obtain ⟨jobs, move⟩ := exists_move (sound.after l) i
    rw [more, after_concat]
    rcases ih with
        ⟨cr, under, caller, none⟩ | ⟨retired, earlier, cr, outcome, before, under, stage, one⟩
    · -- not answered so far: the next move keeps or answers the call
      have sound_l := (sound.after l).withJobs jobs
      have attended_l := (h.after sound l).withJobs jobs
      rcases move.caller_fate sound_l attended_l under caller with
        ⟨cr', under', caller', no⟩ | ⟨outcome, stage, one, retired⟩
      · exact .inl ⟨cr', under', caller', by rw [none, no]; rfl⟩
      · exact .inr ⟨retired, l, cr, outcome, List.prefix_append .., under, stage,
          by rw [none, one]; rfl⟩
    · -- answered before: it stays so
      obtain ⟨retired', no⟩ := move.retired (retired.withJobs jobs)
      exact .inr ⟨retired', earlier, cr, outcome, before.trans (List.prefix_append ..), under, stage,
        by rw [one, no]; rfl⟩

/-- A call that shares the fate of a creation is answered with what the creation came to. -/
theorem SettlesWith.outcome {n g : Nat} (fate : c.SettlesWith n g) {inputs : List (Input ρ κ ε)}
    {o : Except ε (Answer κ)} (answered : .settled n o ∈ c.asked inputs) :
    ∃ earlier cr outcome, earlier <+: inputs ∧ (c.after earlier).creations.get? g = some cr ∧
      cr.stage = .finished outcome ∧ o = outcome.map .client := by
  rw [← mem_outcomesOf] at answered
  rcases fate inputs with ⟨cr, -, -, none⟩ | ⟨earlier, cr, outcome, part, under, stage, one⟩
  · simp [none] at answered
  · rw [one, List.mem_singleton] at answered
    exact ⟨earlier, cr, outcome, part, under, stage, answered⟩

end ServiceAccess.ClientCache

import ServiceAccess.Proofs.ClientCache.Calls

/-! # Where the clients of a cache come from

Every client that a call is answered with was returned by a create call for the key and fingerprint of
that call, whether it was stored, shared with the call by another one or made for it.

* **`Outstanding`**, **`Returned`**: create calls as the surroundings see them, by what the run has asked
  for and what has come in.
* **`Sourced`**: the invariant. A cache holds only clients that have been returned by create calls, each
  with the key and fingerprint that its create call was wanted for.
* **`source_of_answer`**, **`provenance`**: what follows for the answer of a call. -/

namespace ServiceAccess.ClientCache

variable {ρ κ ε : Type} [DecidableEq κ]

/-! ## Create calls -/

/-- A create call is outstanding: it has been asked for, and its end has not come in since. -/
def Outstanding (c : ClientCache ρ κ ε) (inputs : List (Input ρ κ ε)) (g : Nat) (request : ρ) :
    Prop :=
  ∃ l m, inputs = l ++ m ∧ .create g request ∈ c.asked l ∧ ∀ result, .created g result ∉ m

/-- **A create call has returned a client.** -/
def Returned (c : ClientCache ρ κ ε) (inputs : List (Input ρ κ ε)) (g : Nat) (request : ρ) (x : κ) :
    Prop :=
  ∃ l, l ++ [.created g (.ok x)] <+: inputs ∧ c.Outstanding l g request

section
variable {c : ClientCache ρ κ ε} {l : List (Input ρ κ ε)} {i : Input ρ κ ε} {g : Nat} {request : ρ}

/-- A create call that a step asks for is outstanding. -/
theorem Outstanding.fresh (asked : .create g request ∈ ((c.after l).step i).2) :
    c.Outstanding (l ++ [i]) g request := by
  refine ⟨l ++ [i], [], by simp, ?_, by simp⟩
  rw [asked_concat]
  exact List.mem_append_right _ asked

/-- A create call stays outstanding until its end comes in. -/
theorem Outstanding.concat (h : c.Outstanding l g request) (other : ∀ result, i ≠ .created g result) :
    c.Outstanding (l ++ [i]) g request := by
  obtain ⟨l, m, rfl, asked, silent⟩ := h
  refine ⟨l, m ++ [i], by simp, asked, fun result here => ?_⟩
  rcases List.mem_append.1 here with here | here
  · exact silent result here
  · exact other result (List.mem_singleton.1 here).symm

/-- An outstanding create call returns a client when this comes in. -/
theorem Outstanding.returned (h : c.Outstanding l g request) (x : κ) :
    c.Returned (l ++ [.created g (.ok x)]) g request x :=
  ⟨l, List.prefix_refl _, h⟩

/-- What has been returned stays returned. -/
theorem Returned.mono {m : List (Input ρ κ ε)} {x : κ} (h : c.Returned l g request x) (more : l <+: m) :
    c.Returned m g request x := by
  obtain ⟨earlier, before, outstanding⟩ := h
  exact ⟨earlier, before.trans more, outstanding⟩

end

/-! ## The invariant -/

/-- A stage of a creation that has a client. -/
def Stage.Holds (s : Stage κ ε) (x : κ) : Prop := s = .replacing x ∨ s = .finished (.ok x)

omit [DecidableEq κ] in
/-- A creation waits for its create call after a move only if it did before and the call has not ended,
or if the move has made the call. -/
theorem Stage.Next.connecting {g : Nat} {request : ρ} {a : Action ρ κ ε} {es : List (Effect ρ κ ε)}
    {s : Stage κ ε} (next : Stage.Next g request a es s .connecting) :
    (s = .connecting ∧ ∀ result, a ≠ .created g result) ∨ .create g request ∈ es := by
  cases next with
  | stays waits => exact .inl ⟨rfl, waits rfl⟩
  | connects asked => exact .inr asked

omit [DecidableEq κ] in
/-- A creation has a client after a move only if it had it before or its create call has returned it. -/
theorem Stage.Next.holds {g : Nat} {request : ρ} {a : Action ρ κ ε} {es : List (Effect ρ κ ε)}
    {s s' : Stage κ ε} (next : Stage.Next g request a es s s') {x : κ} (held : s'.Holds x) :
    s.Holds x ∨ (s = .connecting ∧ a = .created g (.ok x)) := by
  cases next with
  | stays => exact .inl held
  | @replaces y returned =>
    obtain rfl : y = x := by simpa [Stage.Holds] using held
    exact .inr ⟨rfl, returned⟩
  | @returns y returned =>
    obtain rfl : y = x := by simpa [Stage.Holds] using held
    exact .inr ⟨rfl, returned⟩
  | @stores y =>
    obtain rfl : y = x := by simpa [Stage.Holds] using held
    exact .inl (.inl rfl)
  | connects | fails => simp [Stage.Holds] at held

/-- **A cache holds clients that were made for it.** This is said of the state after some inputs of a
run that began with `c₀`. -/
structure Sourced (c₀ : ClientCache ρ κ ε) (inputs : List (Input ρ κ ε)) (c : ClientCache ρ κ ε) :
    Prop where
  /-- A creation has been wanted. -/
  wanted : ∀ g cr, c.creations.get? g = some cr →
    .acquire cr.key cr.fingerprint cr.request ∈ inputs
  /-- A creation that waits for its create call has an outstanding one. -/
  connecting : ∀ g cr, c.creations.get? g = some cr → cr.stage = .connecting →
    c₀.Outstanding inputs g cr.request
  /-- A creation that has a client got it from its create call. -/
  made : ∀ g cr x, c.creations.get? g = some cr → cr.stage.Holds x →
    c₀.Returned inputs g cr.request x
  /-- A stored client was made for its key and fingerprint. -/
  stored : ∀ key e, c.entries.get? key = some e → ∃ request,
    .acquire key e.fingerprint request ∈ inputs ∧ c₀.Returned inputs e.generation request e.client

/-- The empty cache holds nothing. -/
theorem sourced_empty (disposes : Bool) :
    Sourced (.empty disposes : ClientCache ρ κ ε) [] (.empty disposes) := by
  constructor <;> simp [empty]

variable {c₀ : ClientCache ρ κ ε}

/-- **Every step keeps the clients sourced.** A create call becomes outstanding when a creation begins to
wait for it, and its end takes the creation out of that stage. -/
theorem Sourced.step {l : List (Input ρ κ ε)} (sound : (c₀.after l).Sound)
    (h : Sourced c₀ l (c₀.after l)) (i : Input ρ κ ε) :
    Sourced c₀ (l ++ [i]) (c₀.after (l ++ [i])) := by
  obtain ⟨jobs, move⟩ := exists_move sound i
  rw [after_concat]
  have earlier : l <+: l ++ [i] := List.prefix_append ..
  have wanted : ∀ g cr', ((c₀.after l).step i).1.creations.get? g = some cr' →
      .acquire cr'.key cr'.fingerprint cr'.request ∈ l ++ [i] := by
    intro g cr' under'
    rcases move.creation_cases under' with ⟨cr, under, later, -⟩ | ⟨-, call, -⟩
    · rw [later.key, later.fingerprint, later.request]
      exact earlier.subset (h.wanted g cr under)
    · have now : i = .acquire cr'.key cr'.fingerprint cr'.request := eq_of_occasion call rfl
      simp [now]
  -- a creation gets its client from the create call that it has waited for
  have made : ∀ g cr' x, ((c₀.after l).step i).1.creations.get? g = some cr' → cr'.stage.Holds x →
      c₀.Returned (l ++ [i]) g cr'.request x := by
    intro g cr' x under' held
    rcases move.creation_cases under' with ⟨cr, under, later, next⟩ | ⟨-, -, stage | ⟨stage, -⟩, -⟩
    · rw [later.request]
      rcases next.holds held with before | ⟨stage, call⟩
      · exact (h.made g cr x under before).mono earlier
      · have now : i = .created g (.ok x) := eq_of_occasion call rfl
        rw [now]
        exact (h.connecting g cr under stage).returned x
    · simp [stage, Stage.Holds] at held
    · simp [stage, Stage.Holds] at held
  refine ⟨wanted, ?_, made, ?_⟩
  · intro g cr' under' stage'
    rcases move.creation_cases under' with ⟨cr, under, later, next⟩ | ⟨-, -, stage | ⟨-, asked⟩, -⟩
    · rw [later.request]
      rcases (stage' ▸ next).connecting with ⟨stage, silent⟩ | asked
      · refine (h.connecting g cr under stage).concat ?_
        rintro result rfl
        exact silent result rfl
      · exact .fresh asked
    · simp [stage] at stage'
    · exact .fresh asked
  · intro key e stored'
    rcases move.entry_cases stored' with stored | ⟨cr, under, -, rfl, same, -, ended⟩
    · obtain ⟨request, wanted, made⟩ := h.stored key e stored
      exact ⟨request, earlier.subset wanted, made.mono earlier⟩
    · have returned := made _ _ e.client ended (.inr rfl)
      have call := wanted _ _ ended
      exact ⟨cr.request, by rwa [← same], returned⟩

/-- **Every run of the empty cache keeps the clients sourced.** -/
theorem sourced_after (disposes : Bool) (inputs : List (Input ρ κ ε)) :
    Sourced (.empty disposes) inputs ((empty disposes).after inputs) := by
  induction inputs using List.reverseRecOn with
  | nil => exact sourced_empty disposes
  | append_singleton l i ih => exact ih.step (sound_after disposes l) i

/-- A create call is made for a creation with its request, which then waits for it. -/
theorem Move.create_cases {c c' : ClientCache ρ κ ε} {a : Action ρ κ ε} {es : List (Effect ρ κ ε)}
    (m : Move c a c' es) {g : Nat} {request : ρ} (asked : .create g request ∈ es) :
    ∃ cr, c'.creations.get? g = some cr ∧ cr.stage = .connecting ∧ cr.request = request := by
  cases m with
  | started =>
    obtain ⟨rfl, rfl⟩ : g = c.generation + 1 ∧ request = _ := by simpa using asked
    exact ⟨_, Table.get?_insert_self .., rfl, rfl⟩
  | @connected _ _ cr =>
    obtain ⟨rfl, rfl⟩ : g = _ ∧ request = cr.request := by simpa using asked
    exact ⟨_, Table.get?_insert_self .., rfl, rfl⟩
  | restarted | replacing =>
    simp only [releaseEffects] at asked
    split at asked <;> simp at asked
  | evicted =>
    simp only [sweepEffects] at asked
    split at asked <;> simp at asked
  | swept =>
    simp only [sweepEffects] at asked
    split at asked <;> split at asked <;> simp at asked
  | _ => simp at asked

/-- A create call is made for a creation with its request. -/
theorem creation_of_asked (disposes : Bool) {inputs : List (Input ρ κ ε)} {g : Nat} {request : ρ}
    (asked : .create g request ∈ (empty disposes).asked inputs) :
    ∃ l cr, l <+: inputs ∧ ((empty disposes).after l).creations.get? g = some cr ∧ cr.request = request := by
  induction inputs using List.reverseRecOn with
  | nil => simp [ClientCache.asked, trace] at asked
  | append_singleton l i ih =>
    rw [asked_concat, List.mem_append] at asked
    rcases asked with before | now
    · obtain ⟨l₀, cr, part, under, same⟩ := ih before
      exact ⟨l₀, cr, part.trans (List.prefix_append ..), under, same⟩
    · obtain ⟨cr, under, -, same⟩ := (step_move (sound_after disposes l) i).create_cases now
      rw [← after_concat] at under
      exact ⟨l ++ [i], cr, List.prefix_rfl, under, same⟩

/-- Every create call is made with a request that a call has come with. -/
theorem wanted_of_asked (disposes : Bool) {inputs : List (Input ρ κ ε)} {g : Nat} {request : ρ}
    (asked : .create g request ∈ (empty disposes).asked inputs) :
    ∃ key fp, .acquire key fp request ∈ inputs := by
  obtain ⟨l, cr, part, under, rfl⟩ := creation_of_asked disposes asked
  exact ⟨_, _, part.subset ((sourced_after disposes l).wanted g cr under)⟩

/-! ## Answers -/

/-- A stored client is handed out to a call with its fingerprint. -/
theorem step_hit {c : ClientCache ρ κ ε} {key : String} {e : Entry κ}
    (stored : c.entries.get? key = some e) (request : ρ) :
    .settled c.calls (.ok (.client e.client)) ∈ (c.step (.acquire key e.fingerprint request)).2 := by
  have usable : (c.entries.get? key).filter (fun e' => e'.fingerprint = e.fingerprint) = some e := by
    simp [stored]
  simp [step, acquire, usable]

/-- The client of the only creation is stored. -/
theorem step_store (c : ClientCache ρ κ ε) {key : String} (absent : c.entries.get? key = none)
    (idle : c.flights.get? key = none) (fp : String) (request : ρ) (x : κ) :
    (c.after [.acquire key fp request, .created (c.generation + 1) (.ok x)]).entries.get? key
      = some ⟨x, fp, c.generation + 1⟩ := by
  simp [after, step, acquire, absent, idle, start, connect, enter, revise, settleCreation, settle,
    store, finish, schedule]

/-- A stored client stays while it has the right fingerprint. -/
theorem step_spare {c : ClientCache ρ κ ε} {key fp : String} {e : Entry κ}
    (stored : c.entries.get? key = some e) (same : e.fingerprint = fp) :
    (c.step (.evictStale fp)).1.entries.get? key = some e := by
  simp only [step, evictStale, sweepOut_eq]
  simp [stored, same]

/-- A client is still stored after its credentials have come in again. -/
theorem stored_twice (disposes : Bool) (key fp : String) (request : ρ) (x : κ) :
    ((empty disposes : ClientCache ρ κ ε).after [.evictStale fp, .acquire key fp request,
      .created 1 (.ok x), .evictStale fp]).entries.get? key = some ⟨x, fp, 1⟩ := by
  have parts : ([.evictStale fp, .acquire key fp request, .created 1 (.ok x), .evictStale fp]
      : List (Input ρ κ ε)) = [.evictStale fp] ++ [.acquire key fp request, .created 1 (.ok x)]
        ++ [.evictStale fp] := rfl
  have swept : ((empty disposes : ClientCache ρ κ ε).after [.evictStale fp]).generation = 0 := rfl
  have absent : ((empty disposes : ClientCache ρ κ ε).after [.evictStale fp]).entries.get? key
      = none := rfl
  have made := step_store _ absent rfl fp request x
  rw [swept, Nat.zero_add] at made
  rw [parts, after_concat, after_append]
  exact step_spare made rfl

/-- **Where the client comes from that a call is answered with**: it is stored for the key and fingerprint, or the
creation that the call has called comes to it. -/
theorem source_of_answer (disposes : Bool) {before rest : List (Input ρ κ ε)} {key fp : String}
    {request : ρ} {x : κ}
    (answered : .settled ((empty disposes).after before).calls (.ok (.client x))
      ∈ ((empty disposes).after before).asked (.acquire key fp request :: rest)) :
    (∃ e, ((empty disposes).after before).entries.get? key = some e ∧ e.fingerprint = fp ∧ e.client = x) ∨
    ∃ g cr cr' earlier,
      ((empty disposes).after (before ++ [.acquire key fp request])).creations.get? g = some cr ∧
      cr.key = key ∧ cr.fingerprint = fp ∧ ((empty disposes : ClientCache ρ κ ε).after before).calls ∈ cr.callers ∧
      before ++ [.acquire key fp request] ++ earlier <+: before ++ .acquire key fp request :: rest ∧
      ((empty disposes).after (before ++ [.acquire key fp request] ++ earlier)).creations.get? g = some cr' ∧
      cr'.stage = .finished (.ok x) := by
  have sound := sound_after (ρ := ρ) (κ := κ) (ε := ε) disposes
  have attended := attended_after (ρ := ρ) (κ := κ) (ε := ε) disposes
  have move : Move ((empty disposes).after before) (.acquire key fp request)
      ((empty disposes).after (before ++ [.acquire key fp request]))
      (((empty disposes).after before).step (.acquire key fp request)).2 := by
    rw [after_concat]
    exact step_move (sound before) (.acquire key fp request)
  rw [← mem_outcomesOf, asked_cons, outcomesOf_append, ← after_concat] at answered
  rcases move.acquire_cases (attended before) (sound before) with
      ⟨e, stored, same, retired, only⟩ | ⟨g, cr, under, forKey, forFp, caller, none⟩
  · -- a stored client is the only answer
    rw [only, (retired.after (sound _) rest).2] at answered
    obtain rfl : x = e.client := by simpa using answered
    exact .inl ⟨e, stored, same, rfl⟩
  · -- else the creation that has been called is the only one that answers
    rw [none, List.nil_append, mem_outcomesOf] at answered
    obtain ⟨earlier, cr', outcome, part, under', stage, same⟩ :=
      (settlesWith_of_caller (sound _) (attended _) under caller).outcome answered
    obtain rfl : outcome = .ok x := by cases outcome <;> simp_all [Except.map]
    rw [← after_append] at under'
    exact .inr ⟨g, cr, cr', earlier, under, forKey, forFp, caller, by simpa using part, under', stage⟩

/-- **The client that a call is answered with was returned by a create call for its key and
fingerprint.** -/
theorem provenance (disposes : Bool) {before rest : List (Input ρ κ ε)} {key fp : String}
    {request : ρ} {x : κ}
    (answered : .settled ((empty disposes).after before).calls (.ok (.client x))
      ∈ ((empty disposes).after before).asked (.acquire key fp request :: rest)) :
    ∃ g request', .acquire key fp request' ∈ before ++ .acquire key fp request :: rest ∧
      (empty disposes).Returned (before ++ .acquire key fp request :: rest) g request' x := by
  rcases source_of_answer disposes answered with
    ⟨e, stored, rfl, rfl⟩ | ⟨g, cr, cr', earlier, under, rfl, rfl, -, part, under', stage⟩
  · obtain ⟨request', wanted, made⟩ := (sourced_after disposes before).stored key e stored
    exact ⟨e.generation, request', List.mem_append_left _ wanted, made.mono (List.prefix_append ..)⟩
  · -- the creation that answers is the one that was called, for the same key and fingerprint
    have source := sourced_after disposes (before ++ [.acquire cr.key cr.fingerprint request] ++ earlier)
    have called := source.wanted g cr' under'
    have made := (source.made g cr' x under' (.inr stage)).mono part
    rw [after_append] at under'
    have later := Creation.Continues.after (sound_after disposes _) under under'
    rw [later.key, later.fingerprint] at called
    exact ⟨g, cr'.request, part.subset called, made⟩

end ServiceAccess.ClientCache

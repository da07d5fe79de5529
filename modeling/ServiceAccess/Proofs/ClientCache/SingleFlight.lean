import ServiceAccess.Proofs.ClientCache.Calls

/-! # Single flight

A cache is meant to have at most one create call outstanding for a key and a fingerprint, and to let every
other call for them join it. It remembers one flight per key only, so that a creation is forgotten when a
later one for its key starts with another fingerprint.

* **`SingleFlight`**: what a cache is meant to do in a run.
* **`Overtaken`**: a creation in flight that is no longer the flight of its key.
* **`singleFlight_iff`**: a run is single-flight exactly when no call is made for the key and fingerprint
  of an overtaken creation. Fingerprints that alternate while a creation is in flight make one
  (`not_singleFlight_alternating`). -/

namespace ServiceAccess.ClientCache

variable {ρ κ ε : Type}

/-- A creation in flight for a key, with a fingerprint. -/
def Flies (c : ClientCache ρ κ ε) (key fp : String) (g : Nat) : Prop :=
  ∃ cr, c.creations.get? g = some cr ∧ cr.InFlight ∧ cr.key = key ∧ cr.fingerprint = fp

/-- An outstanding create call for a key, with a fingerprint. -/
def Connects (c : ClientCache ρ κ ε) (key fp : String) (g : Nat) : Prop :=
  ∃ cr, c.creations.get? g = some cr ∧ cr.stage = .connecting ∧ cr.key = key ∧ cr.fingerprint = fp

/-- **A creation for a key and fingerprint is overtaken**: it is in flight and not the flight of its
key. -/
def Overtaken (c : ClientCache ρ κ ε) (key fp : String) : Prop :=
  ∃ g, c.Flies key fp g ∧ c.flights.get? key ≠ some ⟨fp, g⟩

variable [DecidableEq κ]

/-- **A single-flight run.** At no point are two create calls outstanding for one key and fingerprint, and
every call for the key and fingerprint of a creation in flight shares the fate of that creation. -/
structure SingleFlight (c : ClientCache ρ κ ε) (inputs : List (Input ρ κ ε)) : Prop where
  /-- Two create calls for one key and fingerprint are one. -/
  alone : ∀ l, l <+: inputs → ∀ key fp g g', (c.after l).Connects key fp g →
    (c.after l).Connects key fp g' → g = g'
  /-- A call for a creation in flight joins it. -/
  joins : ∀ l key fp request, l ++ [.acquire key fp request] <+: inputs → ∀ g,
    (c.after l).Flies key fp g →
      (c.after (l ++ [.acquire key fp request])).SettlesWith (c.after l).calls g

/-! ## Lone creations -/

omit [DecidableEq κ] in
/-- An outstanding create call belongs to a creation in flight. -/
theorem Connects.flies {c : ClientCache ρ κ ε} {key fp : String} {g : Nat}
    (h : c.Connects key fp g) : c.Flies key fp g := by
  obtain ⟨cr, under, stage, hkey, hfp⟩ := h
  refine ⟨cr, under, fun outcome ended => ?_, hkey, hfp⟩
  simp [ended] at stage

/-- **Creations in flight are alone**: there is no other one for their key and fingerprint, and no stored
client that a call for these could be given instead. -/
structure Lone (c : ClientCache ρ κ ε) : Prop where
  /-- Two creations in flight for one key and fingerprint are one. -/
  alone : ∀ key fp g g', c.Flies key fp g → c.Flies key fp g' → g = g'
  /-- While a creation is in flight, no client with its fingerprint is stored under its key. -/
  unstored : ∀ key fp g e, c.Flies key fp g → c.entries.get? key = some e → e.fingerprint ≠ fp

omit [DecidableEq κ] in
/-- In the empty cache no creation is in flight. -/
theorem lone_empty (disposes : Bool) : Lone (.empty disposes : ClientCache ρ κ ε) := by
  constructor <;> simp [Flies, empty]

variable {c c' : ClientCache ρ κ ε} {a : Action ρ κ ε} {es : List (Effect ρ κ ε)}

/-- A creation in flight was in flight before, or the move has started it; then an older one for the same
key and fingerprint is not the flight of the key. -/
theorem Move.flies_cases (m : Move c a c' es) {key fp : String} {g : Nat} (h : c'.Flies key fp g) :
    c.Flies key fp g ∨ (g = c.generation + 1 ∧ (∃ request, a = .acquire key fp request) ∧
      c'.entries.get? key = none ∧ ∀ f, c.flights.get? key = some f → f.fingerprint ≠ fp) := by
  obtain ⟨cr', under', unfinished, rfl, rfl⟩ := h
  rcases m.inFlight_cases under' unfinished with
      ⟨cr, under, before, later⟩ | ⟨rfl, call, absent, apart⟩
  · exact .inl ⟨cr, under, before, later.key.symm, later.fingerprint.symm⟩
  · exact .inr ⟨rfl, ⟨_, call⟩, absent, apart⟩

/-- Every move keeps creations in flight alone, unless it is a call for an overtaken one. -/
theorem Move.lone (m : Move c a c' es) (h : c.Lone)
    (fair : ∀ key fp request, a = .acquire key fp request → ¬ c.Overtaken key fp) : c'.Lone := by
  -- a creation starts only where none is in flight: it would be the flight, and the call would join it
  have fresh : ∀ key fp g, (∃ request, a = .acquire key fp request) →
      (∀ f, c.flights.get? key = some f → f.fingerprint ≠ fp) → ¬ c.Flies key fp g := by
    rintro key fp g ⟨request, rfl⟩ apart flies
    refine fair key fp request rfl ⟨g, flies, fun flight => ?_⟩
    exact apart _ flight rfl
  refine ⟨?_, ?_⟩
  · intro key fp g g' flies flies'
    obtain old | ⟨new, call, -, apart⟩ := m.flies_cases flies <;>
      rcases m.flies_cases flies' with old' | ⟨new', call', -, apart'⟩
    · exact h.alone key fp g g' old old'
    · exact absurd old (fresh key fp g call' apart')
    · exact absurd old' (fresh key fp g' call apart)
    · rw [new, new']
  · intro key fp g e flies stored
    rcases m.flies_cases flies with old | ⟨-, -, absent, -⟩
    · rcases m.entry_cases stored with before | ⟨cr, under, unfinished, rfl, same, -, ended⟩
      · exact h.unstored key fp g e old before
      · -- the stored client comes from a creation in flight, which is another one
        rintro rfl
        obtain rfl := h.alone _ _ g _ old ⟨cr, under, unfinished, rfl, same⟩
        obtain ⟨cr', under', unfinished', -⟩ := flies
        obtain rfl := Option.some.inj (ended.symm.trans under')
        exact unfinished' _ rfl
    · simp [absent] at stored

/-! ## The exact condition -/

/-- A call for the creation in flight that is the flight of its key joins it. -/
theorem Move.joins {key fp : String} {request : ρ} (m : Move c (.acquire key fp request) c' es)
    (h : c.Lone) {g : Nat} (flies : c.Flies key fp g) (flight : c.flights.get? key = some ⟨fp, g⟩) :
    ∃ cr, c'.creations.get? g = some cr ∧ c.calls ∈ cr.callers := by
  cases m with
  | hit stored same => exact absurd same (h.unstored key fp g _ flies stored)
  | joined unusable flight' under =>
    obtain ⟨-, rfl⟩ := Flight.mk.inj (Option.some.inj (flight.symm.trans flight'))
    exact ⟨_, Table.get?_insert_self .., by simp⟩
  | started _ apart | restarted _ _ apart => exact absurd rfl (apart _ flight)
  | idle nothing => exact nothing.elim

/-- A call that is a caller of an older creation has joined it as the flight of its key. -/
theorem Move.flight_of_caller {key fp : String} {request : ρ}
    (m : Move c (.acquire key fp request) c' es) (sound : c.Sound) (h : c.Attended) {g : Nat}
    (flies : c.Flies key fp g) {cr' : Creation ρ κ ε} (under' : c'.creations.get? g = some cr')
    (caller : c.calls ∈ cr'.callers) : c.flights.get? key = some ⟨fp, g⟩ := by
  obtain ⟨cr, under, -⟩ := flies
  have old : g ≠ c.generation + 1 := Nat.ne_of_lt (Nat.lt_succ_of_le (sound.creation_le g cr under))
  -- the call is new: it has become a caller in this very move
  have unheard := h.next_uncalled under
  cases m with
  | hit =>
    obtain rfl := Option.some.inj (under.symm.trans under')
    exact absurd caller unheard
  | joined unusable flight under₀ =>
    rw [Table.get?_insert] at under'
    split at under'
    · subst g
      exact flight
    · obtain rfl := Option.some.inj (under.symm.trans under')
      exact absurd caller unheard
  | started | restarted =>
    rw [Table.get?_insert, if_neg old] at under'
    obtain rfl := Option.some.inj (under.symm.trans under')
    exact absurd caller unheard
  | idle nothing => exact nothing.elim

/-- In a run that makes no call for an overtaken creation, creations in flight are alone at every point. -/
theorem Lone.after (disposes : Bool) {inputs : List (Input ρ κ ε)}
    (fair : ∀ l key fp request, l ++ [.acquire key fp request] <+: inputs →
      ¬ ((empty disposes).after l).Overtaken key fp) :
    ((empty disposes).after inputs).Lone := by
  induction inputs using List.reverseRecOn with
  | nil => exact lone_empty disposes
  | append_singleton l i ih =>
    have lone := ih fun l' key fp request before => fair l' key fp request
      (before.trans (List.prefix_append ..))
    obtain ⟨jobs, move⟩ := exists_move (sound_after disposes l) i
    rw [after_concat]
    refine move.lone ⟨lone.alone, lone.unstored⟩ ?_
    intro key fp request call
    obtain rfl : i = .acquire key fp request := eq_of_occasion call rfl
    exact fair l key fp request (List.prefix_refl _)

/-- **Single flight, exactly.** A run is single-flight exactly when no call in it is made for the key and
fingerprint of an overtaken creation. -/
theorem singleFlight_iff (disposes : Bool) (inputs : List (Input ρ κ ε)) :
    SingleFlight (.empty disposes) inputs ↔
      ∀ l key fp request, l ++ [.acquire key fp request] <+: inputs →
        ¬ ((empty disposes).after l).Overtaken key fp := by
  have sound := sound_after (ρ := ρ) (κ := κ) (ε := ε) disposes
  have attended := attended_after (ρ := ρ) (κ := κ) (ε := ε) disposes
  constructor
  · rintro single l key fp request before ⟨g, flies, overtaken⟩
    -- right after the call it cannot have been answered, so it is a caller
    have fate := single.joins l key fp request before g flies []
    rcases fate with ⟨cr', under', caller, -⟩ | ⟨_, _, _, _, _, _, unanswered⟩
    · rw [ClientCache.after, Run.after_nil, after_concat] at under'
      exact overtaken ((step_move (sound l) (.acquire key fp request)).flight_of_caller (sound l)
        (attended l) flies under' caller)
    · simp [outcomesOf, asked, trace] at unanswered
  · intro fair
    have lone : ∀ l, l <+: inputs → ((empty disposes).after l).Lone := fun l before =>
      Lone.after disposes fun l' key fp request before' =>
        fair l' key fp request (before'.trans before)
    refine ⟨fun l before key fp g g' connects connects' => ?_, ?_⟩
    · exact (lone l before).alone key fp g g' connects.flies connects'.flies
    · intro l key fp request before g flies
      -- the creation is the flight of its key, and the call joins that
      have flight := not_imp_comm.1 (fun overtaken => ⟨g, flies, overtaken⟩)
        (fair l key fp request before)
      obtain ⟨cr, under, caller⟩ := (step_move (sound l) (.acquire key fp request)).joins
        (lone l ((List.prefix_append ..).trans before)) flies flight
      refine settlesWith_of_caller (sound _) (attended _) ?_ caller
      rw [after_concat]
      exact under

/-- Credentials that change and change back while the first creation is in flight start it again: the
third call finds the flight of the second one, and the first and the third create call are both
outstanding. -/
theorem not_singleFlight_alternating :
    ¬ SingleFlight (.empty true : ClientCache Unit Nat Unit)
      [.acquire "key" "old" (), .acquire "key" "new" (), .acquire "key" "old" ()] := by
  intro single
  have first : ((empty true).after [.acquire "key" "old" (), .acquire "key" "new" (),
      .acquire "key" "old" ()] : ClientCache Unit Nat Unit).Connects "key" "old" 1 :=
    ⟨_, rfl, rfl, rfl, rfl⟩
  have third : ((empty true).after [.acquire "key" "old" (), .acquire "key" "new" (),
      .acquire "key" "old" ()] : ClientCache Unit Nat Unit).Connects "key" "old" 3 :=
    ⟨_, rfl, rfl, rfl, rfl⟩
  exact absurd (single.alone _ (List.prefix_refl _) _ _ _ _ first third) (by decide)

end ServiceAccess.ClientCache

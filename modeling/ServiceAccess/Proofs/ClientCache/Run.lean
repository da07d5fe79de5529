import ServiceAccess.Proofs.ClientCache.Move
import ServiceAccess.Proofs.Run

/-! # Runs of a client cache

What every run of a cache keeps.

* **`Move.creation_fate`**: what becomes of a creation. It keeps its key, fingerprint and request, and its callers only
  grow, until they are answered (**`Move.continues`**).
* **`Move.creation_cases`**, **`Move.flight_cases`**, **`Move.entry_cases`**: where the creations, the
  flights and the stored clients after a move come from.
* **`Move.owner_origin`**: where the owner of a release comes from.
* **`Sound.after`**: a sound cache stays sound, so that by `step_move` each of its steps is a move.
* **`step_keeps`**, **`after_keeps`**: what every move keeps, every step and every run keep. -/

namespace ServiceAccess.ClientCache

variable {ρ κ ε : Type} [DecidableEq κ]
variable {c c' : ClientCache ρ κ ε} {a : Action ρ κ ε} {es : List (Effect ρ κ ε)}

/-! ## Creations and flights -/

/-- A later state of the same creation: its purpose stays, and callers only join. -/
structure Creation.Continues (cr cr' : Creation ρ κ ε) : Prop where
  /-- The key stays. -/
  key : cr'.key = cr.key
  /-- The fingerprint stays. -/
  fingerprint : cr'.fingerprint = cr.fingerprint
  /-- The request stays. -/
  request : cr'.request = cr.request
  /-- Callers only join. -/
  callers : cr.callers <+: cr'.callers

omit [DecidableEq κ] in
/-- Every creation continues itself. -/
theorem Creation.Continues.refl (cr : Creation ρ κ ε) : cr.Continues cr :=
  ⟨rfl, rfl, rfl, List.prefix_refl _⟩

omit [DecidableEq κ] in
/-- What continues a creation that continues another one continues that one. -/
theorem Creation.Continues.trans {cr₁ cr₂ cr₃ : Creation ρ κ ε} (h : cr₁.Continues cr₂)
    (h' : cr₂.Continues cr₃) : cr₁.Continues cr₃ :=
  ⟨h'.key.trans h.key, h'.fingerprint.trans h.fingerprint, h'.request.trans h.request,
    h.callers.trans h'.callers⟩

/-- **What becomes of a creation** in a move. -/
inductive Creation.Fate (c c' : ClientCache ρ κ ε) (a : Action ρ κ ε) (es : List (Effect ρ κ ε)) (g : Nat)
    (cr : Creation ρ κ ε) : Prop where
  /-- It stays in its stage, and no release that it waits for ends. -/
  | stays {cr' : Creation ρ κ ε} (under' : c'.creations.get? g = some cr') (later : cr.Continues cr')
      (same : cr'.stage = cr.stage)
      (goes : ∀ r result, a = .released r result → c.owners.get? r ≠ some (.creation g))
  /-- Its create call ends. -/
  | returns {result : Except ε κ} {cr' : Creation ρ κ ε} (ends : a = .created g result)
      (stage : cr.stage = .connecting) (under' : c'.creations.get? g = some cr') (later : cr.Continues cr')
  /-- The release before its create call ends. -/
  | connects {r : Nat} {cr' : Creation ρ κ ε} (ends : a = .released r (.ok ()))
      (owned : c.owners.get? r = some (.creation g)) (stage : cr.stage = .releasing)
      (under' : c'.creations.get? g = some cr') (later : cr.Continues cr') (next : cr'.stage = .connecting)
  /-- The release behind its create call ends, or one fails: it is over. -/
  | finishes {r : Nat} {result : Except ε Unit} {cr' : Creation ρ κ ε} {outcome : Except ε κ}
      (ends : a = .released r result) (owned : c.owners.get? r = some (.creation g))
      (waits : (∃ x, cr.stage = .replacing x) ∨ cr.stage = .releasing ∧ result ≠ .ok ())
      (under' : c'.creations.get? g = some cr') (later : cr.Continues cr') (next : cr'.stage = .finished outcome)
  /-- Its callers are answered, and it is taken off. -/
  | answered {outcome : Except ε κ} (call : a = .answer g) (stage : cr.stage = .finished outcome)
      (gone : c'.creations.get? g = none)
      (asked : es = cr.callers.map fun call => .settled call (outcome.map .client))

/-- **What becomes of a creation is one of these.** -/
theorem Move.creation_fate (m : Move c a c' es) (h : c.Sound) {g : Nat} {cr : Creation ρ κ ε}
    (under : c.creations.get? g = some cr) : Creation.Fate c c' a es g cr := by
  -- what is written for another creation leaves it as it is
  have spared {g₀ : Nat} {cr₁ : Creation ρ κ ε} (other : g ≠ g₀) :
      (c.creations.insert g₀ cr₁).get? g = some cr := by
    rw [Table.get?_insert, if_neg other, under]
  -- and the end of another release does not concern it
  have goes {n : Nat} {o : Owner} (owned : c.owners.get? n = some o) (other : o ≠ .creation g)
      {result : Except ε Unit} (r : Nat) (result' : Except ε Unit)
      (ends : (.released n result : Action ρ κ ε) = .released r result') : c.owners.get? r ≠ some (.creation g) := by
    obtain ⟨rfl, -⟩ := Action.released.inj ends
    exact fun owned' => other (Option.some.inj (owned.symm.trans owned'))
  cases m with
  | @joined _ _ _ g₀ _ _ _ under₀ =>
    by_cases same : g = g₀
    · subst same
      obtain rfl := Option.some.inj (under.symm.trans under₀)
      exact .stays (Table.get?_insert_self ..) ⟨rfl, rfl, rfl, List.prefix_append ..⟩ rfl (by simp)
    · exact .stays (spared same) (.refl cr) rfl (by simp)
  | started | restarted =>
    -- new creations take a number of their own
    have old : g ≠ c.generation + 1 := Nat.ne_of_lt (Nat.lt_succ_of_le (h.creation_le g cr under))
    exact .stays (spared old) (.refl cr) rfl (by simp)
  | @stored g₀ _ _ under₀ stage | @superseded g₀ _ _ _ under₀ stage | @replacing g₀ _ _ _ under₀ stage
  | @failed g₀ _ _ under₀ stage =>
    by_cases same : g = g₀
    · subst same
      obtain rfl := Option.some.inj (under.symm.trans under₀)
      exact .returns rfl stage (Table.get?_insert_self ..) ⟨rfl, rfl, rfl, List.prefix_refl _⟩
    · exact .stays (spared same) (.refl cr) rfl (by simp)
  | @connected _ g₀ _ owned under₀ stage =>
    by_cases same : g = g₀
    · subst same
      obtain rfl := Option.some.inj (under.symm.trans under₀)
      exact .connects rfl owned stage (Table.get?_insert_self ..) ⟨rfl, rfl, rfl, List.prefix_refl _⟩ rfl
    · exact .stays (spared same) (.refl cr) rfl (goes owned (by simpa using Ne.symm same))
  | @replaced _ g₀ _ _ owned under₀ stage =>
    by_cases same : g = g₀
    · subst same
      obtain rfl := Option.some.inj (under.symm.trans under₀)
      exact .finishes rfl owned (.inl ⟨_, stage⟩) (Table.get?_insert_self ..) ⟨rfl, rfl, rfl, List.prefix_refl _⟩ rfl
    · exact .stays (spared same) (.refl cr) rfl (goes owned (by simpa using Ne.symm same))
  | @aborted _ g₀ _ _ owned under₀ waits =>
    by_cases same : g = g₀
    · subst same
      obtain rfl := Option.some.inj (under.symm.trans under₀)
      refine .finishes rfl owned ?_ (Table.get?_insert_self ..) ⟨rfl, rfl, rfl, List.prefix_refl _⟩ rfl
      exact waits.symm.imp_right fun stage => ⟨stage, by simp⟩
    · exact .stays (spared same) (.refl cr) rfl (goes owned (by simpa using Ne.symm same))
  | noted owned | forgotten owned => exact .stays under (.refl cr) rfl (goes owned (by simp))
  | @answered g₀ _ _ under₀ stage =>
    by_cases same : g = g₀
    · subst same
      obtain rfl := Option.some.inj (under.symm.trans under₀)
      exact .answered rfl stage (by rw [Table.get?_erase, if_pos rfl]) rfl
    · exact .stays (by rw [Table.get?_erase, if_neg same, under]) (.refl cr) rfl (by simp)
  | idle nothing =>
    refine .stays under (.refl cr) rfl ?_
    rintro r result rfl
    simp [nothing]
  | _ => exact .stays under (.refl cr) rfl (by simp)

/-- **A creation stays until its callers are answered.** -/
theorem Move.continues (m : Move c a c' es) (h : c.Sound) {g : Nat} {cr : Creation ρ κ ε}
    (under : c.creations.get? g = some cr) :
    (∃ cr', c'.creations.get? g = some cr' ∧ cr.Continues cr') ∨
      (c'.creations.get? g = none ∧ a = .answer g ∧ ∃ outcome, cr.stage = .finished outcome ∧
        es = cr.callers.map fun call => .settled call (outcome.map .client)) := by
  cases m.creation_fate h under with
  | stays under' later | returns _ _ under' later | connects _ _ _ under' later | finishes _ _ _ under' later =>
    exact .inl ⟨_, under', later⟩
  | answered call stage gone asked => exact .inr ⟨gone, call, _, stage, asked⟩

/-- Creations are counted upwards. -/
theorem Move.generation_le (m : Move c a c' es) : c.generation ≤ c'.generation := by
  cases m <;> simp

/-- A flight is either as old as the move or was there before; it goes when its callers are answered. -/
theorem Move.flight_cases (m : Move c a c' es) {key : String} {f : Flight}
    (flight : c'.flights.get? key = some f) :
    (f.generation = c.generation + 1 ∧ ∃ request stage, c'.creations.get? f.generation
        = some ⟨key, f.fingerprint, request, stage, [c.calls]⟩) ∨
      (c.flights.get? key = some f ∧ ∀ cr, c.creations.get? f.generation = some cr → cr.key = key →
        a ≠ .answer f.generation ∨ ∀ outcome, cr.stage ≠ .finished outcome) := by
  cases m with
  | started | restarted =>
    rw [Table.get?_insert] at flight
    split at flight
    · subst key
      obtain rfl := Option.some.inj flight
      exact .inl ⟨rfl, _, _, Table.get?_insert_self ..⟩
    · exact .inr ⟨flight, by simp⟩
  | answered under stage =>
    rw [Table.get?_filter, Option.filter_eq_some_iff] at flight
    refine .inr ⟨flight.1, fun cr under₁ hkey => .inl ?_⟩
    -- an answered creation takes the flight of its key along
    rintro same
    obtain rfl := Action.answer.inj same
    obtain rfl := Option.some.inj (under.symm.trans under₁)
    simp [hkey] at flight
  | idle nothing =>
    refine .inr ⟨flight, fun cr under _ => ?_⟩
    by_cases same : a = .answer f.generation
    · subst same
      exact .inr fun outcome => nothing cr outcome under
    · exact .inl same
  | _ => exact .inr ⟨flight, by simp⟩

/-- **What becomes of a flight**: it stays, a call with another fingerprint takes its place, or its creation is taken
off with it. -/
theorem Move.flight_fate (m : Move c a c' es) {key : String} {f : Flight} (flight : c.flights.get? key = some f) :
    c'.flights.get? key = some f ∨ (∃ fp request, a = .acquire key fp request ∧ f.fingerprint ≠ fp) ∨
      c'.creations.get? f.generation = none := by
  cases m with
  | @started key' fp request _ apart | @restarted key' fp request _ _ _ apart =>
    rw [Table.get?_insert]
    split
    · next same =>
      subst same
      exact .inr (.inl ⟨fp, request, rfl, apart f flight⟩)
    · exact .inl flight
  | @answered g =>
    by_cases own : f.generation = g
    · exact .inr (.inr (by rw [own, Table.get?_erase, if_pos rfl]))
    · exact .inl (by simp [Table.get?_filter, flight, own])
  | _ => exact .inl flight

/-- A creation that a move has started is the flight of its key. -/
theorem Move.flight_of_started {key fp : String} {request : ρ} (m : Move c (.acquire key fp request) c' es)
    (h : c.Sound) {cr' : Creation ρ κ ε} (under : c'.creations.get? (c.generation + 1) = some cr') :
    c'.flights.get? key = some ⟨fp, c.generation + 1⟩ := by
  have old {cr : Creation ρ κ ε} : c.creations.get? (c.generation + 1) ≠ some cr :=
    fun before => Nat.not_succ_le_self _ (h.creation_le _ cr before)
  cases m with
  | started | restarted => exact Table.get?_insert_self ..
  | joined _ _ under₀ =>
    rw [Table.get?_insert] at under
    split at under
    · next same => exact absurd (same ▸ under₀) old
    · exact absurd under old
  | hit | idle => exact absurd under old

/-- How the stage of a creation can change in a move. -/
inductive Stage.Next (g : Nat) (request : ρ) (a : Action ρ κ ε) (es : List (Effect ρ κ ε)) :
    Stage κ ε → Stage κ ε → Prop where
  /-- It stays; a creation does not go on waiting for a create call that ends. -/
  | stays {s : Stage κ ε} (waits : s = .connecting → ∀ result, a ≠ .created g result) :
    Next g request a es s s
  /-- The create call is made. -/
  | connects (asked : .create g request ∈ es) : Next g request a es .releasing .connecting
  /-- The create call has returned a client, and another one is to be released first. -/
  | replaces {x : κ} (returned : a = .created g (.ok x)) :
    Next g request a es .connecting (.replacing x)
  /-- The create call has returned a client. -/
  | returns {x : κ} (returned : a = .created g (.ok x)) :
    Next g request a es .connecting (.finished (.ok x))
  /-- The client before is released. -/
  | stores {x : κ} : Next g request a es (.replacing x) (.finished (.ok x))
  /-- The create call or the release before it has failed. -/
  | fails {s : Stage κ ε} {failure : ε} : Next g request a es s (.finished (.error failure))

/-- **Where a creation comes from**: it was there before, or the move has started it for a call. -/
theorem Move.creation_cases (m : Move c a c' es) {g : Nat} {cr' : Creation ρ κ ε}
    (under : c'.creations.get? g = some cr') :
    (∃ cr, c.creations.get? g = some cr ∧ cr.Continues cr' ∧
      Stage.Next g cr.request a es cr.stage cr'.stage) ∨
    (g = c.generation + 1 ∧ a = .acquire cr'.key cr'.fingerprint cr'.request ∧
      (cr'.stage = .releasing ∨ cr'.stage = .connecting ∧ .create g cr'.request ∈ es) ∧
      c'.entries.get? cr'.key = none ∧
      ∀ f, c.flights.get? cr'.key = some f → f.fingerprint ≠ cr'.fingerprint) := by
  have other {h : Nat} {result : Except ε κ} (apart : ¬ g = h) :
      Stage.Next g cr'.request (.created h result) es cr'.stage cr'.stage :=
    .stays fun _ _ same => apart (Action.created.inj same).1.symm
  cases m with
  | joined _ _ under₀ =>
    rw [Table.get?_insert] at under
    split at under
    · obtain rfl := Option.some.inj under
      subst g
      exact .inl ⟨_, under₀, ⟨rfl, rfl, rfl, List.prefix_append ..⟩, .stays (by simp)⟩
    · exact .inl ⟨cr', under, .refl cr', .stays (by simp)⟩
  | started absent apart =>
    rw [Table.get?_insert] at under
    split at under
    · obtain rfl := Option.some.inj under
      exact .inr ⟨‹_›, rfl, .inr ⟨rfl, by simp_all⟩, absent, apart⟩
    · exact .inl ⟨cr', under, .refl cr', .stays (by simp)⟩
  | restarted _ _ apart =>
    rw [Table.get?_insert] at under
    split at under
    · obtain rfl := Option.some.inj under
      exact .inr ⟨‹_›, rfl, .inl rfl, by simp, apart⟩
    · exact .inl ⟨cr', under, .refl cr', .stays (by simp)⟩
  -- the end of a create call
  | stored under₀ stage | superseded under₀ stage | replacing under₀ stage | failed under₀ stage =>
    rw [Table.get?_insert] at under
    split at under
    · obtain rfl := Option.some.inj under
      subst g
      refine .inl ⟨_, under₀, ⟨rfl, rfl, rfl, List.prefix_refl _⟩, ?_⟩
      rw [stage]
      first | exact .returns rfl | exact .replaces rfl | exact .fails
    · exact .inl ⟨cr', under, .refl cr', other ‹_›⟩
  -- the end of a release
  | connected _ under₀ stage | replaced _ under₀ stage | aborted _ under₀ stage =>
    rw [Table.get?_insert] at under
    split at under
    · obtain rfl := Option.some.inj under
      subst g
      refine .inl ⟨_, under₀, ⟨rfl, rfl, rfl, List.prefix_refl _⟩, ?_⟩
      first | exact .fails | (rw [stage]; first | exact .connects (by simp) | exact .stores)
    · exact .inl ⟨cr', under, .refl cr', .stays (by simp)⟩
  | answered =>
    rw [Table.get?_erase] at under
    split at under
    · simp at under
    · exact .inl ⟨cr', under, .refl cr', .stays (by simp)⟩
  | idle nothing =>
    refine .inl ⟨cr', under, .refl cr', .stays ?_⟩
    rintro stage result rfl
    exact nothing cr' under stage
  | _ => exact .inl ⟨cr', under, .refl cr', .stays (by simp)⟩

/-- A creation is in flight until it has come to an outcome. -/
def Creation.InFlight (cr : Creation ρ κ ε) : Prop := ∀ outcome, cr.stage ≠ .finished outcome

omit [DecidableEq κ] in
/-- No creation takes off again. -/
theorem Stage.Next.inFlight {g : Nat} {request : ρ} {s s' : Stage κ ε}
    (next : Stage.Next g request a es s s') (unfinished : ∀ outcome, s' ≠ .finished outcome) :
    ∀ outcome, s ≠ .finished outcome := by
  rintro outcome rfl
  cases next with
  | stays => exact unfinished outcome rfl
  | fails => exact unfinished _ rfl

/-- A creation that is in flight was in flight before, or the move has started it for a call that found
nothing to use. -/
theorem Move.inFlight_cases (m : Move c a c' es) {g : Nat} {cr' : Creation ρ κ ε}
    (under : c'.creations.get? g = some cr') (unfinished : cr'.InFlight) :
    (∃ cr, c.creations.get? g = some cr ∧ cr.InFlight ∧ cr.Continues cr') ∨
      (g = c.generation + 1 ∧ a = .acquire cr'.key cr'.fingerprint cr'.request ∧
        c'.entries.get? cr'.key = none ∧
        ∀ f, c.flights.get? cr'.key = some f → f.fingerprint ≠ cr'.fingerprint) := by
  rcases m.creation_cases under with ⟨cr, before, later, next⟩ | ⟨new, call, -, absent, apart⟩
  · exact .inl ⟨cr, before, next.inFlight unfinished, later⟩
  · exact .inr ⟨new, call, absent, apart⟩

/-- A stored client was stored before, or the move has stored it for a creation that was in flight and is
over with it. -/
theorem Move.entry_cases (m : Move c a c' es) {key : String} {e : Entry κ}
    (stored : c'.entries.get? key = some e) :
    c.entries.get? key = some e ∨ ∃ cr, c.creations.get? e.generation = some cr ∧ cr.InFlight ∧
      cr.key = key ∧ cr.fingerprint = e.fingerprint ∧ (a = .created e.generation (.ok e.client) ∨
        cr.stage = .replacing e.client) ∧
      c'.creations.get? e.generation = some { cr with stage := .finished (.ok e.client) } := by
  cases m with
  | stored under stage | replaced _ under stage =>
    rw [Table.get?_insert] at stored
    split at stored
    · obtain rfl := Option.some.inj stored
      refine .inr ⟨_, under, ?_, Eq.symm ‹_›, rfl, by simp [stage], Table.get?_insert_self ..⟩
      -- both stages from which a client is stored are unfinished
      intro outcome ended
      simp [ended] at stage
    · exact .inl stored
  | restarted =>
    rw [Table.get?_erase] at stored
    split at stored
    · simp at stored
    · exact .inl stored
  | evicted | swept =>
    rw [Table.get?_filter, Option.filter_eq_some_iff] at stored
    exact .inl stored.1
  | _ => exact .inl stored

/-! ## Releases -/

/-- Clients keep needing a release, or needing none. -/
theorem Move.disposes (m : Move c a c' es) : c'.disposes = c.disposes := by
  cases m <;> rfl

/-- Releases are counted upwards. -/
theorem Move.releases_le (m : Move c a c' es) : c.releases ≤ c'.releases := by
  cases m <;> simp

/-- A release that does not end keeps its owner. -/
theorem Move.owner_stays (m : Move c a c' es) (sound : c.Sound) {r : Nat} {o : Owner}
    (owned : c.owners.get? r = some o) (goes : ∀ result, a ≠ .released r result) :
    c'.owners.get? r = some o := by
  have older := sound.owner_lt r o owned
  cases m with
  -- a release that starts takes another number
  | restarted | replacing => rw [Table.get?_insert, if_neg (Nat.ne_of_lt older), owned]
  | evicted | swept => rw [get?_sweepOwners, if_neg (fun new => Nat.not_le_of_lt older new.1), owned]
  | connected | replaced | aborted | noted | forgotten =>
    rw [Table.get?_erase, if_neg, owned]
    rintro rfl
    exact goes _ rfl
  | _ => exact owned

/-- **A creation that waits for a release goes on waiting** until that ends. -/
theorem Move.goes_on_waiting (m : Move c a c' es) (h : c.Sound) {r g : Nat} {cr : Creation ρ κ ε}
    (owned : c.owners.get? r = some (.creation g)) (goes : ∀ result, a ≠ .released r result)
    (under : c.creations.get? g = some cr) :
    ∃ cr', c'.creations.get? g = some cr' ∧ cr'.stage = cr.stage := by
  obtain ⟨unconnected, unfinished⟩ := h.owner_waits r g cr owned under
  cases m.creation_fate h under with
  | stays under' _ same => exact ⟨_, under', same⟩
  | returns _ stage => exact absurd stage unconnected
  | connects ends owned' | finishes ends owned' =>
    obtain rfl := h.owner_unique _ _ g owned owned'
    exact absurd ends (goes _)
  | answered _ stage => exact absurd stage (unfinished _)

/-- **A creation waits for its create call** until that ends. -/
theorem Move.connecting_stays (m : Move c a c' es) (sound : c.Sound) {g : Nat} {cr : Creation ρ κ ε}
    (under : c.creations.get? g = some cr) (stage : cr.stage = .connecting)
    (goes : ∀ result, a ≠ .created g result) :
    ∃ cr', c'.creations.get? g = some cr' ∧ cr'.stage = .connecting ∧ cr'.request = cr.request := by
  cases m.creation_fate sound under with
  | stays under' later same => exact ⟨_, under', same.trans stage, later.request⟩
  | returns ends => exact absurd ends (goes _)
  | connects _ _ waits => cases waits.symm.trans stage
  | finishes _ _ waits => simp [stage] at waits
  | answered _ ended => cases ended.symm.trans stage

/-- A creation that is over stays as it is, but for the calls that still join it. -/
theorem Move.finished_stays (m : Move c a c' es) (sound : c.Sound) {g : Nat} {cr cr' : Creation ρ κ ε}
    {outcome : Except ε κ} (under : c.creations.get? g = some cr) (stage : cr.stage = .finished outcome)
    (under' : c'.creations.get? g = some cr') :
    cr'.key = cr.key ∧ cr'.fingerprint = cr.fingerprint ∧ cr'.stage = .finished outcome := by
  cases m.creation_fate sound under with
  | stays under₁ later same =>
    obtain rfl := Option.some.inj (under'.symm.trans under₁)
    exact ⟨later.key, later.fingerprint, same.trans stage⟩
  | returns _ waits | connects _ _ waits => cases waits.symm.trans stage
  | finishes _ _ waits => simp [stage] at waits
  | answered _ _ gone => cases under'.symm.trans gone

/-- **Where the owner of a release comes from**: it was there before and the release has not ended, or the move has
started the release, at most one and for a creation that has waited for none. -/
theorem Move.owner_origin (m : Move c a c' es) (h : c.Sound) {r : Nat} {o : Owner}
    (owned : c'.owners.get? r = some o) :
    (c.owners.get? r = some o ∧ ∀ result, a ≠ .released r result) ∨
    (c.releases ≤ r ∧ r < c'.releases ∧ ∀ g, o = .creation g → r = c.releases ∧
      (∀ n, c.owners.get? n ≠ some (.creation g)) ∧
      ∃ cr', c'.creations.get? g = some cr' ∧ (cr'.stage = .releasing ∨ ∃ x, cr'.stage = .replacing x)) := by
  cases m with
  | restarted =>
    rw [Table.get?_insert] at owned
    split at owned
    · obtain rfl := Option.some.inj owned
      subst r
      refine .inr ⟨Nat.le_refl _, Nat.lt_succ_self _, ?_⟩
      rintro g ⟨⟩
      -- the creation has just been numbered
      exact ⟨rfl, fun n before => Nat.not_succ_le_self _ (h.owner_le n _ before), _,
        Table.get?_insert_self .., .inl rfl⟩
    · exact .inl ⟨owned, by simp⟩
  | replacing under stage =>
    rw [Table.get?_insert] at owned
    split at owned
    · obtain rfl := Option.some.inj owned
      subst r
      refine .inr ⟨Nat.le_refl _, Nat.lt_succ_self _, ?_⟩
      rintro g ⟨⟩
      -- the creation has waited for its create call
      exact ⟨rfl, fun n before => (h.owner_waits n _ _ before under).1 stage, _,
        Table.get?_insert_self .., .inr ⟨_, rfl⟩⟩
    · exact .inl ⟨owned, by simp⟩
  | evicted | swept =>
    rw [get?_sweepOwners] at owned
    split at owned
    · next new =>
      refine .inr ⟨new.1, new.2, ?_⟩
      rintro g rfl
      cases owned
    · exact .inl ⟨owned, by simp⟩
  | connected | replaced | aborted | noted | forgotten =>
    rw [Table.get?_erase] at owned
    split at owned
    · cases owned
    · next other =>
      refine .inl ⟨owned, ?_⟩
      rintro result ⟨⟩
      exact other rfl
  | idle nothing =>
    refine .inl ⟨owned, ?_⟩
    rintro result rfl
    simp [nothing] at owned
  | _ => exact .inl ⟨owned, by simp⟩

/-! ## Soundness -/

/-- Creations are numbered from the counter that the move leaves. -/
theorem Move.creation_le (m : Move c a c' es) (h : c.Sound) {g : Nat} {cr' : Creation ρ κ ε}
    (under : c'.creations.get? g = some cr') : g ≤ c'.generation := by
  cases m with
  | started | restarted =>
    rw [Table.get?_insert] at under
    split at under
    · next same => exact Nat.le_of_eq same
    · exact Nat.le_succ_of_le (h.creation_le g cr' under)
  | joined _ _ under₀ | stored under₀ | superseded under₀ | replacing under₀ | failed under₀ | connected _ under₀
  | replaced _ under₀ | aborted _ under₀ =>
    rw [Table.get?_insert] at under
    split at under
    · next same =>
      rw [same]
      exact h.creation_le _ _ under₀
    · exact h.creation_le g cr' under
  | answered =>
    rw [Table.get?_erase] at under
    split at under
    · cases under
    · exact h.creation_le g cr' under
  | _ => exact h.creation_le g cr' under

/-- **Every move keeps a cache sound**: what it writes is numbered from the counters that it raises, and a creation
leaves a waiting stage only together with the release that it owns. -/
theorem Move.sound (m : Move c a c' es) (h : c.Sound) : c'.Sound where
  creation_le _ _ under := m.creation_le h under
  entry_le key e stored := by
    rcases m.entry_cases stored with before | ⟨cr, under, -⟩
    · exact Nat.le_trans (h.entry_le key e before) m.generation_le
    · exact Nat.le_trans (h.creation_le _ cr under) m.generation_le
  flight_creation key f flight := by
    rcases m.flight_cases flight with ⟨-, request, stage, under⟩ | ⟨flight, stays⟩
    · exact ⟨_, under, rfl, rfl⟩
    · obtain ⟨cr, under, rfl, same⟩ := h.flight_creation key f flight
      rcases m.continues h under with ⟨cr', under', later⟩ | ⟨-, rfl, outcome, stage, -⟩
      · exact ⟨cr', under', later.key, later.fingerprint.trans same⟩
      · rcases stays cr under rfl with other | other
        · exact absurd rfl other
        · exact absurd stage (other outcome)
  owner_lt n o owned := by
    rcases m.owner_origin h owned with ⟨before, -⟩ | ⟨-, new, -⟩
    · exact Nat.lt_of_lt_of_le (h.owner_lt n o before) m.releases_le
    · exact new
  owner_under n g owned := by
    rcases m.owner_origin h owned with ⟨before, goes⟩ | ⟨-, -, new⟩
    · obtain ⟨cr, under, -⟩ := h.owner_creation before
      obtain ⟨cr', under', -⟩ := m.goes_on_waiting h before goes under
      simp [under']
    · obtain ⟨-, -, cr', under', -⟩ := new g rfl
      simp [under']
  owner_waits n g cr' owned under' := by
    rcases m.owner_origin h owned with ⟨before, goes⟩ | ⟨-, -, new⟩
    · obtain ⟨cr, under, -⟩ := h.owner_creation before
      obtain ⟨cr₁, under₁, same⟩ := m.goes_on_waiting h before goes under
      obtain rfl := Option.some.inj (under₁.symm.trans under')
      rw [same]
      exact h.owner_waits n g cr before under
    · obtain ⟨-, -, cr₁, under₁, waits⟩ := new g rfl
      obtain rfl := Option.some.inj (under₁.symm.trans under')
      rcases waits with stage | ⟨x, stage⟩ <;> simp [stage]
  owner_unique n n' g owned owned' := by
    -- a release is started only for a creation that owns none
    rcases m.owner_origin h owned with ⟨before, -⟩ | ⟨-, -, new⟩
    · rcases m.owner_origin h owned' with ⟨before', -⟩ | ⟨-, -, new'⟩
      · exact h.owner_unique n n' g before before'
      · exact absurd before ((new' g rfl).2.1 n)
    · rcases m.owner_origin h owned' with ⟨before', -⟩ | ⟨-, -, new'⟩
      · exact absurd before' ((new g rfl).2.1 n')
      · rw [(new g rfl).1, (new' g rfl).1]

/-! ## Steps and runs -/

/-- The state after some inputs. -/
abbrev after (c : ClientCache ρ κ ε) (inputs : List (Input ρ κ ε)) : ClientCache ρ κ ε :=
  Run.after step c inputs

/-- The inputs with the effects of their steps. -/
abbrev trace (c : ClientCache ρ κ ε) (inputs : List (Input ρ κ ε)) :
    Run.Trace (Input ρ κ ε) (Effect ρ κ ε) := Run.trace step c inputs

/-- The effects of a run, in order. -/
abbrev asked (c : ClientCache ρ κ ε) (inputs : List (Input ρ κ ε)) : List (Effect ρ κ ε) :=
  Run.effects (c.trace inputs)

/-- Later inputs find the cache that the earlier ones have left. -/
theorem after_append (c : ClientCache ρ κ ε) (l m : List (Input ρ κ ε)) :
    c.after (l ++ m) = (c.after l).after m := Run.after_append ..

/-- One more input takes one more step. -/
theorem after_concat (c : ClientCache ρ κ ε) (l : List (Input ρ κ ε)) (i : Input ρ κ ε) :
    c.after (l ++ [i]) = ((c.after l).step i).1 := by
  rw [after, Run.after_append]
  rfl

/-- After an input, a run goes on from the next state. -/
theorem after_append_cons (c : ClientCache ρ κ ε) (l : List (Input ρ κ ε)) (i : Input ρ κ ε)
    (m : List (Input ρ κ ε)) : c.after (l ++ i :: m) = ((c.after l).step i).1.after m := by
  rw [after_append]
  rfl

/-- The effects of a run in two parts are those of the parts. -/
theorem asked_append (c : ClientCache ρ κ ε) (l m : List (Input ρ κ ε)) :
    c.asked (l ++ m) = c.asked l ++ (c.after l).asked m := by
  rw [asked, trace, Run.trace_append, Run.effects_append]

/-- One more input adds the effects of one more step. -/
theorem asked_concat (c : ClientCache ρ κ ε) (l : List (Input ρ κ ε)) (i : Input ρ κ ε) :
    c.asked (l ++ [i]) = c.asked l ++ ((c.after l).step i).2 := by
  rw [asked_append]
  simp [asked, trace]

/-- One more input in front puts the effects of its step in front. -/
theorem asked_cons (c : ClientCache ρ κ ε) (i : Input ρ κ ε) (l : List (Input ρ κ ε)) :
    c.asked (i :: l) = (c.step i).2 ++ (c.step i).1.asked l := Run.effects_cons ..

omit [DecidableEq κ] in
/-- The cache that an input acts on is sound. -/
theorem Sound.occasion (h : c.Sound) (i : Input ρ κ ε) : (c.occasion i).1.Sound := by
  obtain ⟨jobs, same⟩ := c.occasion_fst i
  rw [same]
  exact h.withJobs jobs

/-- **Every step of a sound cache is a move.** -/
theorem step_move (h : c.Sound) (i : Input ρ κ ε) :
    Move (c.occasion i).1 (c.occasion i).2 (c.step i).1 (c.step i).2 := by
  rw [step_eq_act]
  exact act_move (h.occasion i) _

/-- Up to the list of continuations, the move of a step begins at the cache itself. -/
theorem exists_move (h : c.Sound) (i : Input ρ κ ε) :
    ∃ jobs, Move { c with jobs := jobs } (c.occasion i).2 (c.step i).1 (c.step i).2 := by
  obtain ⟨jobs, same⟩ := c.occasion_fst i
  have move := step_move h i
  rw [same] at move
  exact ⟨jobs, move⟩

/-- What is kept by every move and does not depend on the continuations is kept by every step of a sound
cache. -/
theorem step_keeps {P : ClientCache ρ κ ε → Prop} (jobs : ∀ c l, P c → P { c with jobs := l })
    (moves : ∀ c a c' es, c.Sound → Move c a c' es → P c → P c') (h : c.Sound) (hP : P c)
    (i : Input ρ κ ε) : P (c.step i).1 := by
  refine moves _ _ _ _ (h.occasion i) (step_move h i) ?_
  obtain ⟨l, same⟩ := c.occasion_fst i
  rw [same]
  exact jobs c l hP

/-- Every step keeps a cache sound. -/
theorem Sound.step (h : c.Sound) (i : Input ρ κ ε) : (c.step i).1.Sound :=
  (step_move h i).sound (h.occasion i)

/-- **Every run keeps a cache sound.** -/
theorem Sound.after (h : c.Sound) (inputs : List (Input ρ κ ε)) : (c.after inputs).Sound :=
  Run.after_induction _ h (fun _ i h => h.step i) inputs

/-- What is kept by every move and does not depend on the continuations is kept by every run of a sound
cache. -/
theorem after_keeps {P : ClientCache ρ κ ε → Prop} (jobs : ∀ c l, P c → P { c with jobs := l })
    (moves : ∀ c a c' es, c.Sound → Move c a c' es → P c → P c') (h : c.Sound) (hP : P c)
    (inputs : List (Input ρ κ ε)) : P (c.after inputs) :=
  (Run.after_induction (P := fun c : ClientCache ρ κ ε => c.Sound ∧ P c) _ ⟨h, hP⟩
    (fun _ i h => ⟨h.1.step i, step_keeps jobs moves h.1 h.2 i⟩) inputs).2

/-- Creations are counted upwards in a run. -/
theorem generation_le_after (sound : c.Sound) (inputs : List (Input ρ κ ε)) :
    c.generation ≤ (c.after inputs).generation :=
  after_keeps (P := fun c' => c.generation ≤ c'.generation) (fun _ _ h => h)
    (fun _ _ _ _ _ m h => Nat.le_trans h m.generation_le) sound (Nat.le_refl _) inputs

/-- Every run of the empty cache is sound throughout. -/
theorem sound_after (disposes : Bool) (inputs : List (Input ρ κ ε)) :
    ((empty disposes).after inputs).Sound :=
  (sound_empty disposes).after inputs

/-- A creation that is still there after a run has kept its purpose: its number is not used again. -/
theorem Creation.Continues.after (sound : c.Sound) {g : Nat} {cr cr' : Creation ρ κ ε}
    (under : c.creations.get? g = some cr) {inputs : List (Input ρ κ ε)}
    (under' : (c.after inputs).creations.get? g = some cr') : cr.Continues cr' := by
  -- an old number is not given to a new creation, so what has gone does not come back
  suffices kept : g ≤ (c.after inputs).generation ∧
      ∀ cr', (c.after inputs).creations.get? g = some cr' → cr.Continues cr' from kept.2 cr' under'
  clear under' cr'
  induction inputs using List.reverseRecOn with
  | nil =>
    refine ⟨sound.creation_le g cr under, fun cr' under' => ?_⟩
    obtain rfl := Option.some.inj (under.symm.trans under')
    exact .refl cr
  | append_singleton l i ih =>
    obtain ⟨numbered, kept⟩ := ih
    obtain ⟨jobs, move⟩ := exists_move (sound.after l) i
    rw [after_concat]
    refine ⟨Nat.le_trans numbered move.generation_le, fun cr' under' => ?_⟩
    rcases move.creation_cases under' with ⟨cr₁, before, later, -⟩ | ⟨new, -⟩
    · exact (kept cr₁ before).trans later
    · exact absurd numbered (by simp [new])

/-- **A create call has ended**: it was outstanding, and its result has come in. -/
def Ended (c : ClientCache ρ κ ε) (inputs : List (Input ρ κ ε)) (g : Nat) (result : Except ε κ) : Prop :=
  ∃ l cr, l ++ [.created g result] <+: inputs ∧ (c.after l).creations.get? g = some cr ∧
    cr.stage = .connecting

/-- What has ended stays so. -/
theorem Ended.mono {l m : List (Input ρ κ ε)} {g : Nat} {result : Except ε κ} (h : c.Ended l g result)
    (more : l <+: m) : c.Ended m g result := by
  obtain ⟨earlier, cr, before, under⟩ := h
  exact ⟨earlier, cr, before.trans more, under⟩

end ServiceAccess.ClientCache

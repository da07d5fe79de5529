import ServiceAccess.Proofs.ClientCache.Precedence
import ServiceAccess.Proofs.ClientCache.Provenance
import ServiceAccess.Proofs.ClientCache.Sessions

/-! # What a clear call hands over

A clear call is meant to release what was there before it. While it waits for the flights of its moment,
stored clients and flights stay in reach of later calls.

* **`Spent`**: a creation that is over, and whose client is out of the reach of calls.
* **`Latest`**: the flight of a key is its latest creation. Every run keeps this (`latest_after`).
* **`Traced`**: every client that a cache holds was made by the creation that it is held for.
* **`Offers`**: where a call can get the client of a creation from. `offered` says that it is from there.
* **`Horizon`**: a clear call has been made, and waits for the old creations that are still flights.
* **`HandsOver`**: a call hands a client over to the dispose hook.
* **`Caught`**: the ways in which a later call can get a client that a clear call hands over.
* **`caught_of_handed`**: there are no others. -/

namespace ServiceAccess.ClientCache

variable {ρ κ ε : Type}

/-! ## Creations that are over -/

/-- **A creation is spent**: it is over, and no call can get its client any more. -/
structure Spent (c : ClientCache ρ κ ε) (g : Nat) : Prop where
  /-- It has been started. -/
  numbered : g ≤ c.generation
  /-- It is over. -/
  ended : ∀ cr, c.creations.get? g = some cr → ¬ cr.InFlight
  /-- Its client is not stored. -/
  unstored : ∀ key e, c.entries.get? key = some e → e.generation ≠ g
  /-- It is not the flight of a key. -/
  unlisted : ∀ key f, c.flights.get? key = some f → f.generation ≠ g

/-- Whether a creation is spent does not depend on the continuations. -/
theorem Spent.withJobs {c : ClientCache ρ κ ε} {g : Nat} (h : c.Spent g) (jobs : List Job) :
    Spent { c with jobs := jobs } g :=
  ⟨h.numbered, h.ended, h.unstored, h.unlisted⟩

/-- **The flight of a key is its latest creation.** -/
structure Latest (c : ClientCache ρ κ ε) : Prop where
  /-- No other creation for the key is later. -/
  creation_le : ∀ g cr f, c.creations.get? g = some cr → c.flights.get? cr.key = some f →
    g ≤ f.generation
  /-- The stored client is no later. -/
  entry_le : ∀ key e f, c.entries.get? key = some e → c.flights.get? key = some f →
    e.generation ≤ f.generation

/-- The empty cache has no flight. -/
theorem latest_empty (disposes : Bool) : Latest (.empty disposes : ClientCache ρ κ ε) := by
  constructor <;> simp [empty]

variable [DecidableEq κ]
variable {c c' c₀ : ClientCache ρ κ ε} {a : Action ρ κ ε} {es : List (Effect ρ κ ε)}

/-- A spent creation stays spent. -/
theorem Move.spent (m : Move c a c' es) {g : Nat} (h : c.Spent g) : c'.Spent g := by
  refine ⟨Nat.le_trans h.numbered m.generation_le, fun cr' under' unfinished => ?_,
    fun key e stored => ?_, fun key f flight => ?_⟩
  · rcases m.inFlight_cases under' unfinished with ⟨cr, under, before, -⟩ | ⟨rfl, -⟩
    · exact h.ended cr under before
    · exact Nat.not_succ_le_self _ h.numbered
  · rcases m.entry_cases stored with before | ⟨cr, under, unfinished, -⟩
    · exact h.unstored key e before
    · rintro rfl
      exact h.ended cr under unfinished
  · rcases m.flight_cases flight with ⟨new, -⟩ | ⟨before, -⟩
    · have := h.numbered
      omega
    · exact h.unlisted key f before

/-- Every move leaves the flight of a key its latest creation. -/
theorem Move.latest (m : Move c a c' es) (sound : c.Sound) (h : c.Latest) : c'.Latest where
  creation_le g cr' f under flight := by
    rcases m.flight_cases flight with ⟨new, -⟩ | ⟨before, -⟩
    · rcases m.creation_cases under with ⟨cr, under₀, -⟩ | ⟨rfl, -⟩
      · exact Nat.le_trans (sound.creation_le g cr under₀) (new ▸ Nat.le_succ _)
      · exact Nat.le_of_eq new.symm
    · rcases m.creation_cases under with ⟨cr, under₀, later, -⟩ | ⟨rfl, call, -⟩
      · exact h.creation_le g cr f under₀ (later.key ▸ before)
      · -- a creation that starts is the flight of its key
        subst call
        rw [m.flight_of_started sound under] at flight
        exact Nat.le_of_eq (congrArg Flight.generation (Option.some.inj flight))
  entry_le key e f stored flight := by
    rcases m.flight_cases flight with ⟨new, -⟩ | ⟨before, -⟩
    · rcases m.entry_cases stored with stored₀ | ⟨cr, under, -⟩
      · exact Nat.le_trans (sound.entry_le key e stored₀) (new ▸ Nat.le_succ _)
      · exact Nat.le_trans (sound.creation_le _ cr under) (new ▸ Nat.le_succ _)
    · rcases m.entry_cases stored with stored₀ | ⟨cr, under, -, rfl, -⟩
      · exact h.entry_le key e f stored₀ before
      · exact h.creation_le _ cr f under before

/-- Every run of the empty cache leaves the flight of a key its latest creation. -/
theorem latest_after (disposes : Bool) (inputs : List (Input ρ κ ε)) :
    ((empty disposes).after inputs).Latest :=
  after_keeps (P := Latest) (fun _ _ h => ⟨h.creation_le, h.entry_le⟩)
    (fun _ _ _ _ sound m h => m.latest sound h) (sound_empty disposes) (latest_empty disposes) inputs

/-! ## Clients and their creations -/

/-- **A creation has made a client**: its create call has returned it. -/
abbrev Made (c : ClientCache ρ κ ε) (inputs : List (Input ρ κ ε)) (g : Nat) (x : κ) : Prop :=
  c.Ended inputs g (.ok x)

/-- **A client has been set aside**: when it came in, that of a later creation was stored. -/
def SetAside (c : ClientCache ρ κ ε) (inputs : List (Input ρ κ ε)) (x : κ) : Prop :=
  ∃ l g key, l ++ [.created g (.ok x)] <+: inputs ∧
    .note (.superseded key) ∈ ((c.after l).step (.created g (.ok x))).2

/-- What has been set aside stays so. -/
theorem SetAside.mono {l m : List (Input ρ κ ε)} {x : κ} (h : c.SetAside l x) (more : l <+: m) :
    c.SetAside m x := by
  obtain ⟨earlier, g, key, before, note⟩ := h
  exact ⟨earlier, g, key, before.trans more, note⟩

/-- **A cache holds clients for the creations that made them.** This is said of the state after some
inputs of a run that began with `c₀`. -/
structure Traced (c₀ : ClientCache ρ κ ε) (inputs : List (Input ρ κ ε)) (c : ClientCache ρ κ ε) :
    Prop where
  /-- A creation holds the client that it has made. -/
  made : ∀ g cr x, c.creations.get? g = some cr → cr.stage.Holds x → c₀.Made inputs g x
  /-- A stored client is stored for the creation that has made it. -/
  stored : ∀ key e, c.entries.get? key = some e → c₀.Made inputs e.generation e.client
  /-- A client that is set aside was made by a creation that is spent. -/
  aside : ∀ x ∈ c.detached, c₀.SetAside inputs x ∧ ∃ g, c₀.Made inputs g x ∧ c.Spent g

/-- The empty cache holds nothing. -/
theorem traced_empty (disposes : Bool) :
    Traced (.empty disposes : ClientCache ρ κ ε) [] (.empty disposes) := by
  constructor <;> simp [empty]

/-- A client that a move sets aside is that of a creation which is spent afterwards. -/
theorem Move.aside_cases (m : Move c a c' es) (sound : c.Sound) (finished : c.StoredFinished)
    (latest : c.Latest) {x : κ} (aside : x ∈ c'.detached) : x ∈ c.detached ∨
      ∃ g cr key, a = .created g (.ok x) ∧ c.creations.get? g = some cr ∧ cr.stage = .connecting ∧
        .note (.superseded key) ∈ es ∧ c'.Spent g := by
  cases m with
  | @superseded g y cr e under stage present older =>
    have here : x ∈ c.detached ∨ x = y := by
      dsimp only at aside
      split at aside
      · exact .inl aside
      · simpa using aside
    refine here.imp_right ?_
    rintro rfl
    refine ⟨g, cr, cr.key, rfl, under, stage, List.mem_singleton_self _, ⟨?_, ?_, ?_, ?_⟩⟩
    · exact sound.creation_le g cr under
    · intro cr' under' unfinished
      rw [Table.get?_insert_self] at under'
      obtain rfl := Option.some.inj under'
      exact unfinished _ rfl
    · -- a creation whose create call has just ended has stored nothing yet
      rintro key e' stored rfl
      have ended := (finished key e' cr stored under).2.2
      simp [stage] at ended
    · -- the stored client is later, and the flight of the key is no earlier than that
      rintro key f flight rfl
      obtain ⟨cr₀, under₀, rfl, -⟩ := sound.flight_creation key f flight
      obtain rfl := Option.some.inj (under.symm.trans under₀)
      exact absurd (latest.entry_le _ e f present flight) (Nat.not_le.2 older)
  | evicted | swept => simp at aside
  | _ => exact .inl aside

/-- **Every step keeps the clients traced.** -/
theorem Traced.step {l : List (Input ρ κ ε)} (sound : (c₀.after l).Sound)
    (finished : (c₀.after l).StoredFinished) (latest : (c₀.after l).Latest)
    (h : Traced c₀ l (c₀.after l)) (i : Input ρ κ ε) :
    Traced c₀ (l ++ [i]) (c₀.after (l ++ [i])) := by
  obtain ⟨jobs, move⟩ := exists_move sound i
  rw [after_concat]
  have earlier : l <+: l ++ [i] := List.prefix_append ..
  -- a creation gets its client from the create call that it has waited for
  have made : ∀ g cr' x, ((c₀.after l).step i).1.creations.get? g = some cr' → cr'.stage.Holds x →
      c₀.Made (l ++ [i]) g x := by
    intro g cr' x under' held
    rcases move.creation_cases under' with ⟨cr, under, later, next⟩ | ⟨-, -, stage | ⟨stage, -⟩, -⟩
    · rcases next.holds held with before | ⟨stage, call⟩
      · exact (h.made g cr x under before).mono earlier
      · obtain rfl : i = .created g (.ok x) := eq_of_occasion call rfl
        exact ⟨l, cr, List.prefix_refl _, under, stage⟩
    · simp [stage, Stage.Holds] at held
    · simp [stage, Stage.Holds] at held
  refine ⟨made, fun key e stored' => ?_, fun x aside => ?_⟩
  · rcases move.entry_cases stored' with stored | ⟨cr, -, -, -, -, -, ended⟩
    · exact (h.stored key e stored).mono earlier
    · exact made _ _ e.client ended (.inr rfl)
  · have finished' : StoredFinished { c₀.after l with jobs := jobs } := finished
    rcases move.aside_cases (sound.withJobs jobs) finished' ⟨latest.creation_le, latest.entry_le⟩ aside
      with before | ⟨g, cr, key, call, under, stage, note, spent⟩
    · obtain ⟨past, g, made, spent⟩ := h.aside x before
      exact ⟨past.mono earlier, g, made.mono earlier, move.spent (spent.withJobs jobs)⟩
    · obtain rfl : i = .created g (.ok x) := eq_of_occasion call rfl
      exact ⟨⟨l, g, key, List.prefix_refl _, note⟩, g, ⟨l, cr, List.prefix_refl _, under, stage⟩,
        spent⟩

/-- **Every run of the empty cache keeps the clients traced.** -/
theorem traced_after (disposes : Bool) (inputs : List (Input ρ κ ε)) :
    Traced (.empty disposes) inputs ((empty disposes).after inputs) := by
  induction inputs using List.reverseRecOn with
  | nil => exact traced_empty disposes
  | append_singleton l i ih =>
    exact ih.step (sound_after disposes l) (storedFinished_after disposes l) (latest_after disposes l) i

/-! ## The clients of calls -/

/-- A call becomes a caller of the flight of its key or of a new creation. -/
theorem Move.caller_source {key fp : String} {request : ρ} (m : Move c (.acquire key fp request) c' es)
    (attended : c.Attended) {g : Nat} {cr' : Creation ρ κ ε} (under' : c'.creations.get? g = some cr')
    (caller : c.calls ∈ cr'.callers) : g = c.generation + 1 ∨
      (∀ e, c.entries.get? key = some e → e.fingerprint ≠ fp) ∧
        c.flights.get? key = some ⟨fp, g⟩ := by
  -- the call is new: it has become a caller in this very move
  have unheard : ∀ cr, c.creations.get? g = some cr → c.calls ∉ cr.callers :=
    fun cr => attended.next_uncalled
  cases m with
  | hit => exact absurd caller (unheard cr' under')
  | joined unusable flight under =>
    rw [Table.get?_insert] at under'
    split at under'
    · subst g
      exact .inr ⟨unusable, flight⟩
    · exact absurd caller (unheard cr' under')
  | started | restarted =>
    rw [Table.get?_insert] at under'
    split at under'
    · exact .inl ‹_›
    · exact absurd caller (unheard cr' under')
  | idle nothing => exact nothing.elim

/-- **A cache offers the client of a creation to a call** that is made for a key and a fingerprint. -/
inductive Offers (c : ClientCache ρ κ ε) (key fp : String) (g : Nat) (x : κ) : Prop where
  /-- It is stored. -/
  | stored {e : Entry κ} (stored : c.entries.get? key = some e) (same : e.fingerprint = fp)
      (made : e.generation = g) (client : e.client = x)
  /-- The creation is the flight of the key. -/
  | flight (unusable : ∀ e, c.entries.get? key = some e → e.fingerprint ≠ fp)
      (flight : c.flights.get? key = some ⟨fp, g⟩)
  /-- The creation is the next one. -/
  | next (new : g = c.generation + 1)

omit [DecidableEq κ] in
/-- No call is offered the client of a spent creation. -/
theorem Spent.not_offers {g : Nat} (h : c.Spent g) {key fp : String} {x : κ} :
    ¬ c.Offers key fp g x := by
  intro offers
  cases offers with
  | stored stored _ made => exact h.unstored key _ stored made
  | flight _ flight => exact h.unlisted key _ flight rfl
  | next new => exact Nat.not_succ_le_self _ (new ▸ h.numbered)

/-- **Where the client of a call comes from**: the call is offered it, and a creation has made it. -/
theorem offered (disposes : Bool) {before rest : List (Input ρ κ ε)} {key fp : String} {request : ρ}
    {x : κ} (answered : .settled ((empty disposes).after before).calls (.ok (.client x))
      ∈ ((empty disposes).after before).asked (.acquire key fp request :: rest)) :
    ∃ g, (empty disposes).Made (before ++ .acquire key fp request :: rest) g x ∧
      ((empty disposes).after before).Offers key fp g x := by
  have move : Move ((empty disposes).after before) (.acquire key fp request)
      ((empty disposes).after (before ++ [.acquire key fp request]))
      (((empty disposes).after before).step (.acquire key fp request)).2 := by
    rw [after_concat]
    exact step_move (sound_after disposes before) (.acquire key fp request)
  rcases source_of_answer disposes answered with
    ⟨e, stored, same, rfl⟩ | ⟨g, cr, cr', earlier, under, -, -, caller, part, under', stage⟩
  · exact ⟨e.generation, ((traced_after disposes before).stored key e stored).mono (List.prefix_append ..),
      .stored stored same rfl rfl⟩
  · refine ⟨g, ((traced_after disposes _).made g cr' x under' (.inr stage)).mono part, ?_⟩
    rcases move.caller_source (attended_after disposes before) under caller with new | ⟨unusable, flight⟩
    · exact .next new
    · exact .flight unusable flight

/-! ## Clear calls -/

/-- **A clear call has been made**, when `horizon` creations had been started. -/
structure Horizon (c : ClientCache ρ κ ε) (n horizon : Nat) : Prop where
  /-- It is a call. -/
  made : n < c.calls
  /-- The creations have been started. -/
  past : horizon ≤ c.generation
  /-- While it waits, it knows their number. -/
  known : ∀ w, c.waiting.get? n = some w → w.horizon = horizon
  /-- It waits for those of them that are flights. -/
  awaits : ∀ key f, c.flights.get? key = some f → f.generation ≤ horizon →
    ∃ w, c.waiting.get? n = some w ∧ f.generation ∈ w.awaited

omit [DecidableEq κ] in
/-- The horizon of a clear call does not depend on the continuations. -/
theorem Horizon.withJobs {n horizon : Nat} (h : c.Horizon n horizon) (jobs : List Job) :
    Horizon { c with jobs := jobs } n horizon :=
  ⟨h.made, h.past, h.known, h.awaits⟩

/-- A clear call begins to wait for all flights. -/
theorem horizon_start (c : ClientCache ρ κ ε) : (c.step .clear).1.Horizon c.calls c.generation := by
  rw [step, clear_eq]
  refine ⟨Nat.lt_succ_self _, Nat.le_refl _, fun w waits => ?_, fun key f flight _ => ?_⟩
  · rw [Table.get?_insert_self] at waits
    obtain rfl := Option.some.inj waits
    rfl
  · exact ⟨_, Table.get?_insert_self .., List.mem_map.2 ⟨f, Table.mem_values_iff.2 ⟨key, flight⟩, rfl⟩⟩

/-- Who does not wait to sweep does not begin to. -/
theorem Move.unwaiting (m : Move c a c' es) {n : Nat} (made : n < c.calls)
    (unwaiting : c.waiting.get? n = none) : c'.waiting.get? n = none := by
  refine Option.eq_none_iff_forall_ne_some.2 fun w waits => ?_
  rcases m.waiting_origin waits with ⟨⟨w₀, before⟩, -⟩ | ⟨rfl, -⟩
  · simp [unwaiting] at before
  · exact Nat.lt_irrefl _ made

/-- A call that has begun to sweep does not wait any more. -/
theorem Move.sweep_unwaiting {n : Nat} (m : Move c (.sweep n) c' es) : c'.waiting.get? n = none := by
  cases m with
  | swept => exact (Table.get?_erase ..).trans (if_pos rfl)
  | idle nothing => exact nothing

/-- Every move leaves a clear call its horizon. -/
theorem Move.horizon (m : Move c a c' es) (orderly : c.OrderlyDuring a) {n horizon : Nat}
    (h : c.Horizon n horizon) : c'.Horizon n horizon := by
  refine ⟨Nat.lt_of_lt_of_le h.made m.calls_le, Nat.le_trans h.past m.generation_le,
    fun w' waits' => ?_, fun key f flight old => ?_⟩
  · cases before : c.waiting.get? n with
    | none => simp [m.unwaiting h.made before] at waits'
    | some w =>
      rcases m.waiting_cases before h.made with ⟨w₁, waits₁, same, -⟩ | ⟨rfl, -⟩
      · obtain rfl := Option.some.inj (waits'.symm.trans waits₁)
        exact same.trans (h.known w before)
      · simp [m.sweep_unwaiting] at waits'
  · rcases m.flight_cases flight with ⟨new, -⟩ | ⟨before, -⟩
    · have := h.past
      omega
    · obtain ⟨w, waits, here⟩ := h.awaits key f before old
      rcases m.waiting_cases waits h.made with ⟨w', waits', -, -, still⟩ | ⟨rfl, -⟩
      · obtain ⟨cr, under, -⟩ := (m.sound orderly.sound).flight_creation key f flight
        exact ⟨w', waits', still _ here (by simp [under])⟩
      · -- a call that begins to sweep waits for nothing any more
        simp [orderly.live.sweeps_ready n w (.inr rfl) waits] at here

/-- A clear call keeps its horizon for the rest of a run. -/
theorem horizon_after (disposes : Bool) (before mid : List (Input ρ κ ε)) :
    ((empty disposes).after (before ++ .clear :: mid)).Horizon ((empty disposes).after before).calls
      ((empty disposes).after before).generation := by
  rw [after_append_cons]
  exact Orderly.after_keeps (P := fun c => c.Horizon _ _) (fun _ l h => h.withJobs l)
    (fun _ _ _ _ orderly m h => m.horizon orderly h) ((orderly_after disposes before).step .clear)
    (horizon_start _) mid

/-- Every move leaves all clear calls that wait a horizon. -/
theorem Move.waiting_horizon (m : Move c a c' es) (orderly : c.OrderlyDuring a)
    (h : ∀ n w, c.waiting.get? n = some w → c.Horizon n w.horizon) {n : Nat} {w' : Waiting}
    (waits' : c'.waiting.get? n = some w') : c'.Horizon n w'.horizon := by
  cases before : c.waiting.get? n with
  | some w =>
    have horizon := m.horizon orderly (h n w before)
    rwa [← horizon.known w' waits'] at horizon
  | none =>
    -- the call has just been made
    cases m with
    | cleared =>
      rw [Table.get?_insert] at waits'
      split at waits'
      · obtain rfl := Option.some.inj waits'
        subst n
        have horizon := horizon_start c
        rwa [step, clear_eq] at horizon
      · simp [before] at waits'
    | answered =>
      rw [Table.get?_map, before] at waits'
      simp at waits'
    | swept =>
      rw [Table.get?_erase] at waits'
      split at waits' <;> simp [before] at waits'
    | _ => simp [before] at waits'

/-- **A clear call that waits has a horizon**, at every point of a run. -/
theorem waiting_horizon_after (disposes : Bool) (inputs : List (Input ρ κ ε)) :
    ∀ n w, ((empty disposes).after inputs).waiting.get? n = some w →
      ((empty disposes).after inputs).Horizon n w.horizon :=
  Orderly.after_keeps (P := fun c => ∀ n w, c.waiting.get? n = some w → c.Horizon n w.horizon)
    (fun _ l h n w waits => (h n w waits).withJobs l)
    (fun _ _ _ _ orderly m h _ _ waits => m.waiting_horizon orderly h waits) (orderly_empty disposes)
    (by simp [empty]) inputs

/-- Who does not wait to sweep does not begin to in the rest of a run. -/
theorem unwaiting_after (sound : c.Sound) {n : Nat} (made : n < c.calls)
    (unwaiting : c.waiting.get? n = none) (inputs : List (Input ρ κ ε)) :
    (c.after inputs).waiting.get? n = none :=
  (after_keeps (P := fun c => n < c.calls ∧ c.waiting.get? n = none) (fun _ _ h => h)
    (fun _ _ _ _ _ m h => ⟨Nat.lt_of_lt_of_le h.1 m.calls_le, m.unwaiting h.1 h.2⟩) sound
    ⟨made, unwaiting⟩ inputs).2

/-- A spent creation stays spent for the rest of a run. -/
theorem Spent.after (sound : c.Sound) {g : Nat} (h : c.Spent g) (inputs : List (Input ρ κ ε)) :
    (c.after inputs).Spent g :=
  after_keeps (P := fun c => c.Spent g) (fun _ l h => h.withJobs l) (fun _ _ _ _ _ m h => m.spent h)
    sound h inputs

/-- **A call hands a client over** to the dispose hook. -/
def HandsOver (c : ClientCache ρ κ ε) (inputs : List (Input ρ κ ε)) (n : Nat) (x : κ) : Prop :=
  ∃ l i r, l ++ [i] <+: inputs ∧ .dispose r x ∈ ((c.after l).step i).2 ∧
    (c.after (l ++ [i])).owners.get? r = some (.sweep n)

/-- Where there is no hook, nothing is handed over. -/
theorem HandsOver.hook (disposes : Bool) {inputs : List (Input ρ κ ε)} {n : Nat} {x : κ}
    (h : (empty disposes).HandsOver inputs n x) : disposes = true := by
  obtain ⟨l, i, r, -, asked, -⟩ := h
  have hook := (step_move (sound_after disposes l) i).dispose_cases asked |>.1
  obtain ⟨jobs, same⟩ := ((empty disposes).after l).occasion_fst i
  rw [same] at hook
  exact (disposes_after disposes l).symm.trans hook

/-- One item of a list lies before another one, is that one, or lies behind it. -/
theorem prefix_concat_cases {α : Type} {l before rest : List α} {i j : α}
    (h : l ++ [i] <+: before ++ j :: rest) :
    l ++ [i] <+: before ∨ (l = before ∧ i = j) ∨ ∃ m, l = before ++ j :: m := by
  obtain ⟨more, same⟩ := h
  rw [List.append_assoc, List.append_eq_append_iff] at same
  rcases same with ⟨m, rfl, tail⟩ | ⟨m, rfl, tail⟩
  · cases m with
    | nil => exact .inr (.inl ⟨(List.append_nil _).symm, (List.cons.inj tail).1⟩)
    | cons k m =>
      obtain ⟨rfl, -⟩ := List.cons.inj tail
      exact .inl (by simp)
  · cases m with
    | nil => exact .inr (.inl ⟨List.append_nil _, (List.cons.inj tail).1.symm⟩)
    | cons k m =>
      obtain ⟨rfl, -⟩ := List.cons.inj tail
      exact .inr (.inr ⟨m, rfl⟩)

/-- Only the sweep of a clear call hands clients over for it. -/
theorem HandsOver.sweep (disposes : Bool) {before rest : List (Input ρ κ ε)} {x : κ}
    (h : (empty disposes).HandsOver (before ++ .clear :: rest) ((empty disposes).after before).calls x) :
    ∃ l i w, before ++ .clear :: l ++ [i] <+: before ++ .clear :: rest ∧
      (((empty disposes).after (before ++ .clear :: l)).occasion i).2
        = .sweep ((empty disposes).after before).calls ∧
      ((empty disposes).after (before ++ .clear :: l)).waiting.get?
        ((empty disposes).after before).calls = some w ∧
      (x ∈ ((empty disposes).after (before ++ .clear :: l)).detached ∨ ∃ key e,
        ((empty disposes).after (before ++ .clear :: l)).entries.get? key = some e ∧
          e.generation ≤ w.horizon ∧ e.client = x) := by
  have sound := sound_after (ρ := ρ) (κ := κ) (ε := ε) disposes
  have grows : ∀ l m : List (Input ρ κ ε), l <+: m →
      ((empty disposes).after l).calls ≤ ((empty disposes).after m).calls := by
    rintro l _ ⟨m, rfl⟩
    rw [after_append]
    exact calls_le_after (sound l) m
  obtain ⟨l, i, r, part, asked, owned⟩ := h
  obtain ⟨jobs, move⟩ := exists_move (sound l) i
  rw [after_concat] at owned
  obtain ⟨-, ⟨g, other⟩ | ⟨fp, call, other⟩ | ⟨n, w, call, waits, own, source⟩⟩ :=
    move.dispose_cases asked
  · simp [owned] at other
  · -- a call that evicts has a number of its own
    obtain rfl : i = .evictStale fp := eq_of_occasion call rfl
    have number : ((empty disposes).after before).calls = ((empty disposes).after l).calls :=
      Owner.sweep.inj (Option.some.inj (owned.symm.trans other))
    have next : ((empty disposes).after (l ++ [.evictStale fp])).calls
        = ((empty disposes).after l).calls + 1 := by
      rw [after_concat]
      simp [step, evictStale, sweepOut_eq]
    rcases prefix_concat_cases part with earlier | ⟨-, same⟩ | ⟨m, rfl⟩
    · have := grows _ _ earlier
      omega
    · simp at same
    · have made := (horizon_after disposes before m).made
      omega
  · obtain rfl : n = ((empty disposes).after before).calls :=
      (Owner.sweep.inj (Option.some.inj (owned.symm.trans own))).symm
    -- a call waits only after it has been made
    have late : ¬ l <+: before := fun earlier => by
      have waits' : ((empty disposes).after l).waiting.get? _ = some w := waits
      exact Nat.not_lt.2 (grows _ _ earlier) ((attended_after disposes l).waiting_lt _ w waits')
    rcases prefix_concat_cases part with earlier | ⟨rfl, -⟩ | ⟨m, rfl⟩
    · exact absurd ((List.prefix_append ..).trans earlier) late
    · exact absurd (List.prefix_refl _) late
    · exact ⟨m, i, w, part, call, waits, source⟩

/-- The creation of a client that a clear call sweeps out is spent, unless it is still a flight. -/
theorem Move.spent_of_sweep {n : Nat} (m : Move c (.sweep n) c' es) (sound : c.Sound)
    (finished : c.StoredFinished) {w : Waiting} (waits : c.waiting.get? n = some w) {key : String}
    {e : Entry κ} (stored : c.entries.get? key = some e) (old : e.generation ≤ w.horizon)
    (unlisted : ∀ key f, c'.flights.get? key = some f → f.generation ≠ e.generation) :
    c'.Spent e.generation := by
  cases m with
  | swept waits₀ =>
    obtain rfl := Option.some.inj (waits.symm.trans waits₀)
    refine ⟨sound.entry_le key e stored, fun cr under unfinished => ?_, fun key' e' stored' same => ?_,
      unlisted⟩
    · exact unfinished _ (finished key e cr stored under).2.2
    · -- all that is this old goes
      rw [Table.get?_filter, Option.filter_eq_some_iff] at stored'
      have young : w.horizon < e'.generation := by simpa using stored'.2
      omega
  | idle nothing => simp [waits] at nothing

/-- **What a clear call hands over**: it waits until then, and the client has been set aside or is that of
an earlier creation. Either way the creation that has made it is spent then. -/
theorem HandsOver.spent (disposes : Bool) {before rest : List (Input ρ κ ε)} {x : κ}
    (h : (empty disposes).HandsOver (before ++ .clear :: rest) ((empty disposes).after before).calls x) :
    ∃ l i g, before ++ .clear :: l ++ [i] <+: before ++ .clear :: rest ∧
      ((empty disposes).after (before ++ .clear :: l)).waiting.get?
        ((empty disposes).after before).calls ≠ none ∧
      (empty disposes).Made (before ++ .clear :: l) g x ∧
      ((empty disposes).after (before ++ .clear :: l ++ [i])).Spent g ∧
      ((empty disposes).SetAside (before ++ .clear :: l) x ∨
        g ≤ ((empty disposes).after before).generation) := by
  obtain ⟨l, i, w, part, call, waits, source⟩ := h.sweep
  have traced := traced_after (ρ := ρ) (κ := κ) (ε := ε) disposes (before ++ .clear :: l)
  have sound := sound_after (ρ := ρ) (κ := κ) (ε := ε) disposes (before ++ .clear :: l)
  have horizon := horizon_after (ρ := ρ) (κ := κ) (ε := ε) disposes before l
  have horizon' := horizon_after (ρ := ρ) (κ := κ) (ε := ε) disposes before (l ++ [i])
  rw [← List.cons_append, ← List.append_assoc] at horizon'
  obtain ⟨jobs, move⟩ := exists_move sound i
  rw [call, ← after_concat] at move
  refine ⟨l, i, ?_⟩
  rcases source with aside | ⟨key, e, stored, old, rfl⟩
  · obtain ⟨past, g, made, spent⟩ := traced.aside x aside
    refine ⟨g, part, by simp [waits], made, ?_, .inl past⟩
    exact move.spent (spent.withJobs jobs)
  · have early : e.generation ≤ ((empty disposes).after before).generation :=
      horizon.known w waits ▸ old
    refine ⟨e.generation, part, by simp [waits], traced.stored key e stored, ?_, .inr early⟩
    have finished : StoredFinished { (empty disposes).after (before ++ .clear :: l) with jobs := jobs } :=
      storedFinished_after disposes (before ++ .clear :: l)
    -- a flight that is this old would keep the call waiting
    refine move.spent_of_sweep (sound.withJobs jobs) finished waits stored old fun key' f flight same => ?_
    obtain ⟨w', waits', -⟩ := horizon'.awaits key' f flight (same ▸ early)
    exact absurd (move.sweep_unwaiting.symm.trans waits') (by simp)

/-! ## Later calls -/

/-- **The ways in which a later call can get a client that a clear call hands over.** The call is made for a
key and a fingerprint in the state `c`, in the course of a run of `c₀`. -/
inductive Caught (c₀ : ClientCache ρ κ ε) (inputs : List (Input ρ κ ε)) (c : ClientCache ρ κ ε) (n : Nat)
    (key fp : String) (x : κ) : Prop where
  /-- The clear call still waits, and the client is stored for an earlier creation. -/
  | hit {w : Waiting} {e : Entry κ} (waits : c.waiting.get? n = some w)
      (stored : c.entries.get? key = some e) (same : e.fingerprint = fp)
      (old : e.generation ≤ w.horizon) (client : e.client = x)
  /-- The clear call still waits, and the call joins an earlier creation. -/
  | joined {w : Waiting} {g : Nat} (waits : c.waiting.get? n = some w)
      (unusable : ∀ e, c.entries.get? key = some e → e.fingerprint ≠ fp)
      (flight : c.flights.get? key = some ⟨fp, g⟩) (old : g ≤ w.horizon)
  /-- The clear call still waits, and the client of the call is set aside. -/
  | superseded {w : Waiting} (waits : c.waiting.get? n = some w) (aside : c₀.SetAside inputs x)
  /-- Two create calls have returned the same client. -/
  | shared {g g' : Nat} (apart : g ≠ g') (made : c₀.Made inputs g x) (made' : c₀.Made inputs g' x)

/-- A call that is offered the client of an old creation is caught while the clear call waits. -/
theorem Offers.caught {key fp : String} {g n : Nat} {x : κ} (h : c.Offers key fp g x) {w : Waiting}
    (waits : c.waiting.get? n = some w) (old : g ≤ w.horizon) (past : w.horizon ≤ c.generation)
    {inputs : List (Input ρ κ ε)} : Caught c₀ inputs c n key fp x := by
  cases h with
  | stored stored same made client => exact .hit waits stored same (made ▸ old) client
  | flight unusable flight => exact .joined waits unusable flight old
  | next new => omega

/-- **There are no others**: a later call that is answered with a client which a clear call hands over is
caught by it. -/
theorem caught_of_handed (disposes : Bool) {before mid rest : List (Input ρ κ ε)} {key fp : String}
    {request : ρ} {x : κ}
    (answered : .settled ((empty disposes).after (before ++ .clear :: mid)).calls (.ok (.client x))
      ∈ ((empty disposes).after (before ++ .clear :: mid)).asked (.acquire key fp request :: rest))
    (handed : (empty disposes).HandsOver (before ++ .clear :: mid ++ .acquire key fp request :: rest)
      ((empty disposes).after before).calls x) :
    Caught (empty disposes) (before ++ .clear :: mid ++ .acquire key fp request :: rest)
      ((empty disposes).after (before ++ .clear :: mid)) ((empty disposes).after before).calls key fp
      x := by
  have sound := sound_after (ρ := ρ) (κ := κ) (ε := ε) disposes
  have horizon := horizon_after (ρ := ρ) (κ := κ) (ε := ε) disposes before mid
  obtain ⟨g, made, offers⟩ := offered disposes answered
  rw [List.append_assoc, List.cons_append] at handed
  obtain ⟨l, i, g', part, waits, made', spent, cause⟩ := handed.spent
  rw [← @List.cons_append _ _ _ (.acquire key fp request :: rest), ← List.append_assoc] at part
  have whole : before ++ .clear :: l
      <+: before ++ .clear :: mid ++ .acquire key fp request :: rest :=
    (List.prefix_append ..).trans part
  by_cases one : g' = g
  · subst one
    cases waiting : ((empty disposes).after (before ++ .clear :: mid)).waiting.get?
        ((empty disposes).after before).calls with
    | some w =>
      have known := horizon.known w waiting
      rcases cause with past | early
      · exact .superseded waiting (past.mono whole)
      · exact offers.caught waiting (known ▸ early) (known ▸ horizon.past)
    | none =>
      -- the clear call has swept before, so that the creation is spent and gives no call its client
      have past : before ++ .clear :: l ++ [i] <+: before ++ .clear :: mid := by
        rcases prefix_concat_cases part with past | ⟨same, -⟩ | ⟨m, same⟩
        · exact past
        · exact absurd (same ▸ waiting) waits
        · rw [same, after_append] at waits
          exact absurd (unwaiting_after (sound _) horizon.made waiting _) waits
      obtain ⟨more, same⟩ := past
      have spent' : ((empty disposes).after (before ++ .clear :: mid)).Spent g' := by
        rw [← same, after_append]
        exact spent.after (sound _) more
      exact absurd offers spent'.not_offers
  · exact .shared one (made'.mono whole) made

/-- **A call that comes right after a clear call** gets the stored client that this is about to hand
over. -/
theorem handsOver_hit (key fp : String) (request request' : ρ) (x : κ) :
    .settled ((empty true : ClientCache ρ κ ε).after
        [.acquire key fp request, .created 1 (.ok x), .resume, .clear]).calls (.ok (.client x))
      ∈ ((empty true : ClientCache ρ κ ε).after [.acquire key fp request, .created 1 (.ok x), .resume,
        .clear]).asked [.acquire key fp request', .resume] ∧
    (empty true : ClientCache ρ κ ε).HandsOver [.acquire key fp request, .created 1 (.ok x), .resume,
      .clear, .acquire key fp request', .resume]
      ((empty true : ClientCache ρ κ ε).after [.acquire key fp request, .created 1 (.ok x),
        .resume]).calls x := by
  have none : (∅ : Table String (Entry κ)).erase key = ∅ := Table.erase_of_absent rfl
  refine ⟨?_, [.acquire key fp request, .created 1 (.ok x), .resume, .clear, .acquire key fp request'],
    .resume, 0, List.prefix_refl _, ?_, ?_⟩
  all_goals
    simp [asked, trace, after, Run.effects, empty, step, acquire, start, connect, enter, revise, clear,
      settleCreation, settle, store, finish, schedule, resume, run, answerCallers, notifyWaiting,
      sweepFor, sweepOut, releaseEach, release, none, Option.filter_some, Table.values, Table.keys,
      Table.entries_insert_of_not_mem]

end ServiceAccess.ClientCache

import ServiceAccess.ClientCache.Step
import ServiceAccess.Proofs.Routine
import ServiceAccess.Proofs.Table

/-! # Caches side by side

Two caches that are told the same, up to requests, clients and fingerprints that correspond to each other,
do the same, up to these. All that a cache makes of clients and fingerprints is to compare them, so it is
enough that what corresponds is equal on one side exactly when it is on the other.

* **`Link`**: which requests, clients and fingerprints correspond.
* **`Alike`**: caches that are the same up to a link.
* **`Alike.step`**: what corresponds happens to them, and they remain so and ask for what corresponds. -/

namespace ServiceAccess.ClientCache

variable {ρ κ ε : Type}

/-! ## Links -/

/-- **What corresponds on two sides.** -/
structure Link (ρ κ : Type) where
  /-- Requests. -/
  request : ρ → ρ → Prop
  /-- Clients. -/
  client : κ → κ → Prop
  /-- Fingerprints. -/
  fingerprint : String → String → Prop
  /-- Clients are equal on one side when they are on the other. -/
  client_iff : ∀ {x x' y y'}, client x x' → client y y' → (x = y ↔ x' = y')
  /-- Fingerprints are equal on one side when they are on the other. -/
  fingerprint_iff : ∀ {f f' g g'}, fingerprint f f' → fingerprint g g' → (f = g ↔ f' = g')

variable (L : Link ρ κ)

/-- Stored clients that correspond. -/
structure Entry.Alike (e e' : Entry κ) : Prop where
  /-- The clients. -/
  client : L.client e.client e'.client
  /-- The fingerprints. -/
  fingerprint : L.fingerprint e.fingerprint e'.fingerprint
  /-- The creations. -/
  generation : e.generation = e'.generation

/-- Flights that correspond. -/
structure Flight.Alike (f f' : Flight) : Prop where
  /-- The fingerprints. -/
  fingerprint : L.fingerprint f.fingerprint f'.fingerprint
  /-- The creations. -/
  generation : f.generation = f'.generation

/-- Stages that correspond. -/
inductive Stage.Alike : Stage κ ε → Stage κ ε → Prop
  /-- Both wait for a first release. -/
  | releasing : Alike .releasing .releasing
  /-- Both make the create call. -/
  | connecting : Alike .connecting .connecting
  /-- Both hold a client and wait for a release. -/
  | replacing {x x' : κ} : L.client x x' → Alike (.replacing x) (.replacing x')
  /-- Both are over. -/
  | finished {o o' : Except ε κ} : Results.Related L.client o o' → Alike (.finished o) (.finished o')

/-- Creations that correspond. -/
structure Creation.Alike (x x' : Creation ρ κ ε) : Prop where
  /-- The keys. -/
  key : x.key = x'.key
  /-- The fingerprints. -/
  fingerprint : L.fingerprint x.fingerprint x'.fingerprint
  /-- The requests. -/
  request : L.request x.request x'.request
  /-- The stages. -/
  stage : Stage.Alike L x.stage x'.stage
  /-- The callers. -/
  callers : x.callers = x'.callers

/-- Answers that correspond. -/
inductive Answer.Alike : Answer κ → Answer κ → Prop
  /-- Clients that correspond. -/
  | client {x x' : κ} : L.client x x' → Alike (.client x) (.client x')
  /-- The same number. -/
  | count (n : Nat) : Alike (.count n) (.count n)
  /-- The end of the call. -/
  | done : Alike .done .done

/-- Sweeps that correspond. -/
structure Sweep.Alike (s s' : Sweep κ ε) : Prop where
  /-- The answers. -/
  answer : Answer.Alike L s.answer s'.answer
  /-- The releases. -/
  releases : s.releases = s'.releases

/-- Effects that correspond. -/
inductive Effect.Alike : Effect ρ κ ε → Effect ρ κ ε → Prop
  /-- The same report. -/
  | note (n : Note) : Alike (.note n) (.note n)
  /-- Create calls of the same number. -/
  | create (generation : Nat) {request request' : ρ} :
      L.request request request' → Alike (.create generation request) (.create generation request')
  /-- Releases of the same number. -/
  | dispose (release : Nat) {x x' : κ} :
      L.client x x' → Alike (.dispose release x) (.dispose release x')
  /-- Answers to the same call. -/
  | settled (call : Nat) {o o' : Except ε (Answer κ)} :
      Results.Related (Answer.Alike L) o o' → Alike (.settled call o) (.settled call o')

/-- Inputs that correspond. Those who are to go are the same ones when a fingerprint comes in. -/
inductive Input.Alike : Input ρ κ ε → Input ρ κ ε → Prop
  /-- A client is wanted for the same key. -/
  | acquire (key : String) {f f' : String} {request request' : ρ} : L.fingerprint f f' →
      L.request request request' → Alike (.acquire key f request) (.acquire key f' request')
  /-- Clients built with other credentials are to go. -/
  | evictStale {f f' : String} : (∀ g g', L.fingerprint g g' → (g = f ↔ g' = f')) →
      Alike (.evictStale f) (.evictStale f')
  /-- All clients are to go. -/
  | clear : Alike .clear .clear
  /-- The same create call has ended. -/
  | created (generation : Nat) {o o' : Except ε κ} :
      Results.Related L.client o o' → Alike (.created generation o) (.created generation o')
  /-- The same release has ended. -/
  | released (release : Nat) (result : Except ε Unit) :
      Alike (.released release result) (.released release result)
  /-- The oldest continuation runs. -/
  | resume : Alike .resume .resume

/-- **Caches that are the same up to a link.** -/
structure Alike (c c' : ClientCache ρ κ ε) : Prop where
  /-- Whether clients have to be released. -/
  disposes : c.disposes = c'.disposes
  /-- The stored clients. -/
  entries : Table.Related (Entry.Alike L) c.entries c'.entries
  /-- The latest creations under way. -/
  flights : Table.Related (Flight.Alike L) c.flights c'.flights
  /-- The clients that were never stored. -/
  detached : List.Forall₂ L.client c.detached c'.detached
  /-- The number of the last creation. -/
  generation : c.generation = c'.generation
  /-- The number of the next call. -/
  calls : c.calls = c'.calls
  /-- The number of the next release. -/
  releases : c.releases = c'.releases
  /-- The creations whose callers have not been answered. -/
  creations : Table.Related (Creation.Alike L) c.creations c'.creations
  /-- The outstanding releases. -/
  owners : c.owners = c'.owners
  /-- The sweeps whose call has not been answered. -/
  sweeps : Table.Related (Sweep.Alike L) c.sweeps c'.sweeps
  /-- The clear calls that have not swept yet. -/
  waiting : c.waiting = c'.waiting
  /-- The continuations to run. -/
  jobs : c.jobs = c'.jobs

/-- Steps to caches that are alike, with effects that correspond. -/
def Turn.Alike (t t' : Turn ρ κ ε) : Prop :=
  ClientCache.Alike L t.1 t'.1 ∧ List.Forall₂ (Effect.Alike L) t.2 t'.2

namespace Alike

variable {L} {c c' : ClientCache ρ κ ε}

theorem empty (disposes : Bool) : Alike L (ClientCache.empty disposes : ClientCache ρ κ ε)
    (ClientCache.empty disposes) :=
  ⟨rfl, .empty, .empty, .nil, rfl, rfl, rfl, .empty, rfl, .empty, rfl, rfl⟩

/-- A step that asks for nothing. -/
theorem silent (h : Alike L c c') : Turn.Alike L (c, []) (c', []) := ⟨h, .nil⟩

/-! ## Creations -/

theorem schedule (h : Alike L c c') (job : Job) : Alike L (c.schedule job) (c'.schedule job) :=
  { h with jobs := congrArg (· ++ [job]) h.jobs }

theorem revise (h : Alike L c c') (generation : Nat) {f f' : Creation ρ κ ε → Creation ρ κ ε}
    (same : ∀ x x', Creation.Alike L x x' → Creation.Alike L (f x) (f' x')) :
    Alike L (c.revise generation f) (c'.revise generation f') := by
  rw [ClientCache.revise, ClientCache.revise]
  rcases h.creations.get?_cases generation with ⟨none, none'⟩ | ⟨x, x', some, some', alike⟩
  · rw [none, none']
    exact h
  · rw [some, some']
    exact { h with creations := h.creations.insert generation (same x x' alike) }

theorem enter (h : Alike L c c') (generation : Nat) {stage stage' : Stage κ ε}
    (same : Stage.Alike L stage stage') :
    Alike L (c.enter generation stage) (c'.enter generation stage') :=
  h.revise generation fun _ _ alike => { alike with stage := same }

theorem finish (h : Alike L c c') (generation : Nat) {o o' : Except ε κ}
    (same : Results.Related L.client o o') :
    Alike L (c.finish generation o) (c'.finish generation o') :=
  (h.enter generation (.finished same)).schedule _

theorem connect (h : Alike L c c') (generation : Nat) {x x' : Creation ρ κ ε}
    (alike : Creation.Alike L x x') :
    Turn.Alike L (c.connect generation x) (c'.connect generation x') := by
  rw [ClientCache.connect, ClientCache.connect, alike.key]
  exact ⟨h.enter generation .connecting, .cons (.note _) (.cons (.create _ alike.request) .nil)⟩

theorem store (h : Alike L c c') (generation : Nat) {x x' : Creation ρ κ ε}
    (alike : Creation.Alike L x x') {client client' : κ} (same : L.client client client') :
    Alike L (c.store generation x client) (c'.store generation x' client') := by
  rw [ClientCache.store, ClientCache.store, alike.key]
  have stored : Alike L
      { c with entries := c.entries.insert x'.key ⟨client, x.fingerprint, generation⟩ }
      { c' with entries := c'.entries.insert x'.key ⟨client', x'.fingerprint, generation⟩ } :=
    { h with entries := h.entries.insert _ ⟨same, alike.fingerprint, rfl⟩ }
  exact stored.finish generation (.ok same)

/-! ## Releases -/

theorem release (h : Alike L c c') (owner : Owner) {x x' : κ} (same : L.client x x') :
    Turn.Alike L (c.release owner x) (c'.release owner x') := by
  have taken : Alike L
      { c with releases := c.releases + 1, owners := c.owners.insert c.releases owner }
      { c' with releases := c'.releases + 1, owners := c'.owners.insert c'.releases owner } :=
    { h with releases := by rw [h.releases], owners := by rw [h.owners, h.releases] }
  simp only [ClientCache.release]
  by_cases hook : c.disposes = true
  · rw [if_pos hook, if_pos (h.disposes ▸ hook)]
    exact ⟨taken, .cons (h.releases ▸ .dispose _ same) .nil⟩
  · rw [if_neg hook, if_neg (h.disposes ▸ hook)]
    have scheduled := taken.schedule (.release c.releases)
    exact ⟨{ scheduled with jobs := h.releases ▸ scheduled.jobs }, .nil⟩

theorem releaseEach {clients clients' : List κ} (same : List.Forall₂ L.client clients clients')
    (h : Alike L c c') (call : Nat) :
    Turn.Alike L (c.releaseEach call clients) (c'.releaseEach call clients') := by
  induction same generalizing c c' with
  | nil => exact h.silent
  | cons first _ ih =>
    obtain ⟨next, effects⟩ := h.release (.sweep call) first
    obtain ⟨last, others⟩ := ih next
    exact ⟨last, List.rel_append effects others⟩

theorem sweepOut (h : Alike L c c') {call call' : Nat} (calls : call = call') {answer answer' : Answer κ}
    (answers : Answer.Alike L answer answer') {clients clients' : List κ}
    (same : List.Forall₂ L.client clients clients') :
    Turn.Alike L (c.sweepOut call answer clients) (c'.sweepOut call' answer' clients') := by
  subst calls
  have numbers : ((List.range clients.length).map fun i => (c.releases + i, (none : Option (Except ε Unit))))
      = (List.range clients'.length).map fun i => (c'.releases + i, none) := by
    rw [h.releases, same.length_eq]
  have opened : Alike L
      { c with sweeps := c.sweeps.insert call
                 ⟨answer, (List.range clients.length).map fun i => (c.releases + i, none)⟩ }
      { c' with sweeps := c'.sweeps.insert call
                  ⟨answer', (List.range clients'.length).map fun i => (c'.releases + i, none)⟩ } :=
    { h with sweeps := h.sweeps.insert call ⟨answers, numbers⟩ }
  cases same with
  | nil => exact (opened.schedule _).silent
  | cons first rest => exact releaseEach (.cons first rest) opened call

theorem noteRelease (h : Alike L c c') (call release : Nat) (result : Except ε Unit) :
    Alike L (c.noteRelease call release result) (c'.noteRelease call release result) := by
  rw [ClientCache.noteRelease, ClientCache.noteRelease]
  rcases h.sweeps.get?_cases call with ⟨none, none'⟩ | ⟨s, s', some, some', alike⟩
  · rw [none, none']
    exact h
  · have noted : Sweep.Alike L (s.note release result) (s'.note release result) :=
      ⟨alike.answer, by rw [Sweep.note, Sweep.note, alike.releases]⟩
    have written : Alike L
        { c with sweeps := c.sweeps.insert call (s.note release result) }
        { c' with sweeps := c'.sweeps.insert call (s'.note release result) } :=
      { h with sweeps := h.sweeps.insert call noted }
    have ended : (s.note release result).isOver = (s'.note release result).isOver := by
      rw [Sweep.isOver, Sweep.isOver, noted.releases]
    rw [some, some']
    simp only [ended]
    split
    · exact written.schedule _
    · exact written

theorem proceed (h : Alike L c c') (generation : Nat) (result : Except ε Unit) :
    Turn.Alike L (c.proceed generation result) (c'.proceed generation result) := by
  rw [ClientCache.proceed, ClientCache.proceed]
  rcases h.creations.get?_cases generation with ⟨none, none'⟩ | ⟨x, x', some, some', alike⟩
  · rw [none, none']
    exact h.silent
  · rw [some, some']
    obtain ⟨key, fingerprint, request, stage, callers⟩ := x
    obtain ⟨key', fingerprint', request', stage', callers'⟩ := x'
    have stages : Stage.Alike L stage stage' := alike.stage
    cases stages with
    | releasing =>
      cases result with
      | ok => exact h.connect generation alike
      | error e => exact (h.finish generation (.error e)).silent
    | connecting => cases result <;> exact h.silent
    | replacing same =>
      cases result with
      | ok => exact (h.store generation alike same).silent
      | error e => exact (h.finish generation (.error e)).silent
    | finished same => cases result <;> exact h.silent

theorem settleRelease (h : Alike L c c') (release : Nat) (result : Except ε Unit) :
    Turn.Alike L (c.settleRelease release result) (c'.settleRelease release result) := by
  rw [ClientCache.settleRelease, ClientCache.settleRelease, ← h.owners]
  cases c.owners.get? release with
  | none => exact h.silent
  | some owner =>
    have erased : Alike L { c with owners := c.owners.erase release }
        { c' with owners := c.owners.erase release } := { h with owners := rfl }
    cases owner with
    | creation generation => exact erased.proceed generation result
    | sweep call => exact (erased.noteRelease call release result).silent

/-! ## Calls -/

theorem start (h : Alike L c c') (call : Nat) (key : String) {f f' : String} {request request' : ρ}
    (fingerprints : L.fingerprint f f') (requests : L.request request request') :
    Turn.Alike L (c.start call key f request) (c'.start call key f' request') := by
  have begun : Creation.Alike L ⟨key, f, request, Stage.releasing, [call]⟩
      (⟨key, f', request', .releasing, [call]⟩ : Creation ρ κ ε) :=
    ⟨rfl, fingerprints, requests, .releasing, rfl⟩
  have started : ∀ generation, Alike L
      { c with
        entries := c.entries.erase key
        generation := generation
        creations := c.creations.insert generation ⟨key, f, request, Stage.releasing, [call]⟩
        flights := c.flights.insert key ⟨f, generation⟩ }
      { c' with
        entries := c'.entries.erase key
        generation := generation
        creations := c'.creations.insert generation ⟨key, f', request', .releasing, [call]⟩
        flights := c'.flights.insert key ⟨f', generation⟩ } := fun generation =>
    { h with
      entries := h.entries.erase key
      generation := rfl
      creations := h.creations.insert generation begun
      flights := h.flights.insert key ⟨fingerprints, rfl⟩ }
  simp only [ClientCache.start, ← h.generation]
  rcases h.entries.get?_cases key with ⟨none, none'⟩ | ⟨e, e', some, some', alike⟩
  · rw [none, none']
    exact (started _).connect _ begun
  · rw [some, some']
    obtain ⟨next, effects⟩ := (started (c.generation + 1)).release (.creation (c.generation + 1))
      alike.client
    exact ⟨next, .cons (.note _) effects⟩

theorem acquire (h : Alike L c c') (key : String) {f f' : String} {request request' : ρ}
    (fingerprints : L.fingerprint f f') (requests : L.request request request') :
    Turn.Alike L (c.acquire key f request) (c'.acquire key f' request') := by
  have called : Alike L { c with calls := c.calls + 1 } { c' with calls := c.calls + 1 } :=
    { h with calls := rfl }
  -- on both sides a stored client or a flight is usable, or it is on neither
  have usable : Option.Rel (Entry.Alike L)
      ((c.entries.get? key).filter fun e => decide (e.fingerprint = f))
      ((c'.entries.get? key).filter fun e => decide (e.fingerprint = f')) := by
    rcases h.entries.get?_cases key with ⟨none, none'⟩ | ⟨e, e', some, some', alike⟩
    · rw [none, none']
      exact .none
    · rw [some, some', Option.filter_some, Option.filter_some]
      simp only [L.fingerprint_iff alike.fingerprint fingerprints]
      split
      · exact .some alike
      · exact .none
  have flying : Option.Rel (Flight.Alike L)
      ((c.flights.get? key).filter fun e => decide (e.fingerprint = f))
      ((c'.flights.get? key).filter fun e => decide (e.fingerprint = f')) := by
    rcases h.flights.get?_cases key with ⟨none, none'⟩ | ⟨e, e', some, some', alike⟩
    · rw [none, none']
      exact .none
    · rw [some, some', Option.filter_some, Option.filter_some]
      simp only [L.fingerprint_iff alike.fingerprint fingerprints]
      split
      · exact .some alike
      · exact .none
  simp only [ClientCache.acquire, ← h.calls]
  generalize (c.entries.get? key).filter _ = hit at usable ⊢
  generalize (c'.entries.get? key).filter _ = hit' at usable ⊢
  generalize (c.flights.get? key).filter _ = flight at flying ⊢
  generalize (c'.flights.get? key).filter _ = flight' at flying ⊢
  cases usable with
  | some alike => exact ⟨called, .cons (.note _) (.cons (.settled _ (.ok (.client alike.client))) .nil)⟩
  | none =>
    cases flying with
    | @some flight flight' alike =>
      obtain ⟨f, generation⟩ := flight
      obtain ⟨f', generation'⟩ := flight'
      obtain rfl : generation = generation' := alike.generation
      exact ⟨called.revise generation fun x x' same => { same with callers := by rw [same.callers] },
        .cons (.note _) .nil⟩
    | none => exact called.start _ key fingerprints requests

/-! ## Ends of creations -/

/-- A client is among some clients exactly when the one that corresponds to it is. -/
theorem mem_iff {l l' : List κ} (same : List.Forall₂ L.client l l') {x x' : κ}
    (client : L.client x x') : x ∈ l ↔ x' ∈ l' := by
  induction same with
  | nil => simp
  | cons first _ ih => rw [List.mem_cons, List.mem_cons, ih, L.client_iff client first]

theorem detach [DecidableEq κ] (h : Alike L c c') (generation : Nat) {x x' : κ}
    (same : L.client x x') : Alike L (c.detach generation x) (c'.detach generation x') := by
  rw [ClientCache.detach, ClientCache.detach]
  have held : List.Forall₂ L.client (if x ∈ c.detached then c.detached else c.detached ++ [x])
      (if x' ∈ c'.detached then c'.detached else c'.detached ++ [x']) := by
    by_cases known : x ∈ c.detached
    · rw [if_pos known, if_pos ((mem_iff h.detached same).1 known)]
      exact h.detached
    · rw [if_neg known, if_neg (mt (mem_iff h.detached same).2 known)]
      exact List.rel_append h.detached (.cons same .nil)
  have kept : Alike L
      { c with detached := if x ∈ c.detached then c.detached else c.detached ++ [x] }
      { c' with detached := if x' ∈ c'.detached then c'.detached else c'.detached ++ [x'] } :=
    { h with detached := held }
  exact kept.finish generation (.ok same)

theorem settle [DecidableEq κ] (h : Alike L c c') (generation : Nat) {x x' : Creation ρ κ ε}
    (alike : Creation.Alike L x x') {client client' : κ} (same : L.client client client') :
    Turn.Alike L (c.settle generation x client) (c'.settle generation x' client') := by
  rw [ClientCache.settle, ClientCache.settle, ← alike.key]
  rcases h.entries.get?_cases x.key with ⟨none, none'⟩ | ⟨e, e', some, some', entry⟩
  · rw [none, none']
    exact (h.store generation alike same).silent
  · rw [some, some']
    simp only [entry.generation]
    split
    · exact ⟨h.detach generation same, .cons (.note _) .nil⟩
    · exact (h.enter generation (.replacing same)).release _ entry.client

theorem settleCreation [DecidableEq κ] (h : Alike L c c') (generation : Nat) {o o' : Except ε κ}
    (same : Results.Related L.client o o') :
    Turn.Alike L (c.settleCreation generation o) (c'.settleCreation generation o') := by
  rw [ClientCache.settleCreation, ClientCache.settleCreation]
  rcases h.creations.get?_cases generation with ⟨none, none'⟩ | ⟨x, x', some, some', alike⟩
  · rw [none, none']
    exact h.silent
  · rw [some, some']
    obtain ⟨key, fingerprint, request, stage, callers⟩ := x
    obtain ⟨key', fingerprint', request', stage', callers'⟩ := x'
    have stages : Stage.Alike L stage stage' := alike.stage
    cases stages with
    | connecting =>
      cases same with
      | ok client => exact h.settle generation alike client
      | error e => exact (h.finish generation (.error e)).silent
    | releasing | replacing | finished => cases same <;> exact h.silent

/-! ## Sweeps -/

/-- The clients that a test selects correspond. -/
theorem selected (h : Alike L c c') {p q : Entry κ → Bool}
    (same : ∀ e e', Entry.Alike L e e' → p e = q e') :
    List.Forall₂ L.client
      (c.detached ++ (c.entries.filter fun _ e => p e).values.map Entry.client)
      (c'.detached ++ (c'.entries.filter fun _ e => q e).values.map Entry.client) := by
  have kept := (h.entries.filter (p := fun _ e => p e) (q := fun _ e => q e) fun _ => same).values
  refine List.rel_append h.detached (List.forall₂_map_left_iff.2 (List.forall₂_map_right_iff.2 ?_))
  exact kept.imp fun _ _ entry => entry.client

theorem evictStale (h : Alike L c c') {f f' : String}
    (same : ∀ g g', L.fingerprint g g' → (g = f ↔ g' = f')) :
    Turn.Alike L (c.evictStale f) (c'.evictStale f') := by
  have stale : ∀ e e' : Entry κ, Entry.Alike L e e' →
      decide (e.fingerprint ≠ f) = decide (e'.fingerprint ≠ f') := fun e e' entry =>
    decide_eq_decide.2 (not_congr (same _ _ entry.fingerprint))
  have fresh : ∀ (_ : String) (e e' : Entry κ), Entry.Alike L e e' →
      decide (e.fingerprint = f) = decide (e'.fingerprint = f') := fun _ e e' entry =>
    decide_eq_decide.2 (same _ _ entry.fingerprint)
  have swept := h.selected stale
  have called : Alike L
      { c with
        calls := c.calls + 1
        detached := []
        entries := c.entries.filter fun _ e => e.fingerprint = f }
      { c' with
        calls := c'.calls + 1
        detached := []
        entries := c'.entries.filter fun _ e => e.fingerprint = f' } :=
    { h with
      calls := congrArg (· + 1) h.calls
      detached := .nil
      entries := h.entries.filter fresh }
  have count : Answer.Alike L
      (.count (c.detached ++ (c.entries.filter fun _ e => e.fingerprint ≠ f).values.map Entry.client).length)
      (.count (c'.detached
        ++ (c'.entries.filter fun _ e => e.fingerprint ≠ f').values.map Entry.client).length) := by
    rw [swept.length_eq]
    exact .count _
  exact called.sweepOut h.calls count swept

theorem clear (h : Alike L c c') : Turn.Alike L c.clear c'.clear := by
  have awaited : c.flights.values.map Flight.generation = c'.flights.values.map Flight.generation := by
    have flights := h.flights.values
    generalize c.flights.values = l at flights
    generalize c'.flights.values = l' at flights
    induction flights with
    | nil => rfl
    | cons first _ ih => rw [List.map_cons, List.map_cons, first.generation, ih]
  have waits : Alike L
      { c with
        calls := c.calls + 1
        waiting := c.waiting.insert c.calls ⟨c.generation, c.flights.values.map Flight.generation⟩ }
      { c' with
        calls := c'.calls + 1
        waiting := c'.waiting.insert c'.calls
                    ⟨c'.generation, c'.flights.values.map Flight.generation⟩ } :=
    { h with
      calls := congrArg (· + 1) h.calls
      waiting := by rw [h.waiting, h.calls, h.generation, awaited] }
  simp only [ClientCache.clear]
  by_cases none : (c.flights.values.map Flight.generation).isEmpty = true
  · rw [if_pos none, if_pos (awaited ▸ none)]
    exact silent { waits with jobs := by simp only [ClientCache.schedule, h.jobs, h.calls] }
  · rw [if_neg none, if_neg (awaited ▸ none)]
    exact waits.silent

/-- Sweeps of clients that correspond are reported alike. -/
theorem released {clients clients' : List κ} (same : List.Forall₂ L.client clients clients') :
    List.Forall₂ (Effect.Alike L)
      (if clients.isEmpty then [] else [(.note (.released clients.length) : Effect ρ κ ε)])
      (if clients'.isEmpty then [] else [.note (.released clients'.length)]) := by
  rw [← same.length_eq]
  cases same with
  | nil => exact .nil
  | cons => exact .cons (.note _) .nil

theorem sweepFor (h : Alike L c c') (call : Nat) : Turn.Alike L (c.sweepFor call) (c'.sweepFor call) := by
  rw [ClientCache.sweepFor, ClientCache.sweepFor, ← h.waiting]
  cases c.waiting.get? call with
  | none => exact h.silent
  | some waiting =>
    have old : ∀ e e' : Entry κ, Entry.Alike L e e' →
        decide (e.generation ≤ waiting.horizon) = decide (e'.generation ≤ waiting.horizon) :=
      fun e e' entry => by rw [entry.generation]
    have swept := h.selected old
    have waits : Alike L
        { c with
          waiting := c.waiting.erase call
          detached := []
          entries := c.entries.filter fun _ e => !decide (e.generation ≤ waiting.horizon) }
        { c' with
          waiting := c.waiting.erase call
          detached := []
          entries := c'.entries.filter fun _ e => !decide (e.generation ≤ waiting.horizon) } :=
      { h with
        waiting := rfl
        detached := .nil
        entries := h.entries.filter fun _ e e' entry => by rw [old e e' entry] }
    obtain ⟨next, effects⟩ := waits.sweepOut rfl .done swept
    exact ⟨next, List.rel_append (released swept) effects⟩

/-! ## Continuations -/

theorem notifyWaiting (h : Alike L c c') (generation : Nat) :
    Alike L (c.notifyWaiting generation) (c'.notifyWaiting generation) :=
  { h with
    waiting := by rw [ClientCache.notifyWaiting, ClientCache.notifyWaiting, h.waiting]
    jobs := by simp only [ClientCache.notifyWaiting, h.waiting, h.jobs] }

theorem answerCallers (h : Alike L c c') (generation : Nat) :
    Turn.Alike L (c.answerCallers generation) (c'.answerCallers generation) := by
  rw [ClientCache.answerCallers, ClientCache.answerCallers]
  rcases h.creations.get?_cases generation with ⟨none, none'⟩ | ⟨x, x', some, some', alike⟩
  · rw [none, none']
    exact h.silent
  · rw [some, some']
    obtain ⟨key, fingerprint, request, stage, callers⟩ := x
    obtain ⟨key', fingerprint', request', stage', callers'⟩ := x'
    obtain rfl : key = key' := alike.key
    obtain rfl : callers = callers' := alike.callers
    have stages : Stage.Alike L stage stage' := alike.stage
    cases stages with
    | @finished o o' same =>
      have erased : Alike L
          { c with
            creations := c.creations.erase generation
            flights := c.flights.filter fun k f =>
                        !(decide (k = key) && decide (f.generation = generation)) }
          { c' with
            creations := c'.creations.erase generation
            flights := c'.flights.filter fun k f =>
                        !(decide (k = key) && decide (f.generation = generation)) } :=
        { h with
          creations := h.creations.erase generation
          flights := h.flights.filter fun _ f f' flight => by rw [flight.generation] }
      refine ⟨erased.notifyWaiting generation, ?_⟩
      refine List.forall₂_map_left_iff.2 (List.forall₂_map_right_iff.2 (List.forall₂_same.2 ?_))
      exact fun call _ => .settled call (same.map fun _ _ => .client)
    | releasing | connecting | replacing => exact h.silent

theorem concludeSweep (h : Alike L c c') (call : Nat) :
    Turn.Alike L (c.concludeSweep call) (c'.concludeSweep call) := by
  rw [ClientCache.concludeSweep, ClientCache.concludeSweep]
  rcases h.sweeps.get?_cases call with ⟨none, none'⟩ | ⟨s, s', some, some', alike⟩
  · rw [none, none']
    exact h.silent
  · rw [some, some']
    refine ⟨{ h with sweeps := h.sweeps.erase call }, .cons (.settled call ?_) .nil⟩
    rw [Sweep.outcome, Sweep.outcome, ← alike.releases]
    split
    · exact .error _
    · exact .ok alike.answer

theorem run (h : Alike L c c') (job : Job) : Turn.Alike L (c.run job) (c'.run job) := by
  cases job with
  | answer generation => exact h.answerCallers generation
  | sweep call => exact h.sweepFor call
  | conclude call => exact h.concludeSweep call
  | release number => exact h.settleRelease number (.ok ())

theorem resume (h : Alike L c c') : Turn.Alike L c.resume c'.resume := by
  rw [ClientCache.resume, ClientCache.resume, ← h.jobs]
  cases c.jobs with
  | nil => exact h.silent
  | cons job jobs =>
    have popped : Alike L { c with jobs := jobs } { c' with jobs := jobs } := { h with jobs := rfl }
    exact popped.run job

/-! ## Steps -/

/-- **What corresponds keeps caches alike**, and they ask for what corresponds. -/
theorem step [DecidableEq κ] (h : Alike L c c') {i i' : Input ρ κ ε} (same : Input.Alike L i i') :
    Turn.Alike L (c.step i) (c'.step i') := by
  cases same with
  | acquire key fingerprint request => exact h.acquire key fingerprint request
  | evictStale stale => exact h.evictStale stale
  | clear => exact h.clear
  | created generation result => exact h.settleCreation generation result
  | released release result => exact h.settleRelease release result
  | resume => exact h.resume

/-- Whether any client was built with given credentials is the same on both sides. -/
theorem hasFingerprint (h : Alike L c c') {f f' : String}
    (same : ∀ g g', L.fingerprint g g' → (g = f ↔ g' = f')) :
    c.hasFingerprint f = c'.hasFingerprint f' := by
  have entries := h.entries.values
  rw [ClientCache.hasFingerprint, ClientCache.hasFingerprint]
  generalize c.entries.values = l at entries ⊢
  generalize c'.entries.values = l' at entries ⊢
  induction entries with
  | nil => rfl
  | cons first _ ih =>
    rw [List.any_cons, List.any_cons, ih, decide_eq_decide.2 (same _ _ first.fingerprint)]

end Alike

end ServiceAccess.ClientCache

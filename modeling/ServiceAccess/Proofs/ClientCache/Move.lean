import ServiceAccess.Proofs.ClientCache.Closed

/-! # What a step of a client cache can do

A step either answers its input at once or takes a continuation off the list and runs it. `Action` is
what is done in both cases, and `step_eq_act` reduces every step to an action.

* **`Sound`**: the numbers and references of a cache make sense: a flight belongs to a creation that is
  under way, and a release that a creation waits for is waited for.
* **`Move`**: the changes that an action can make to a sound cache, each with its occasion and with the
  fields that it writes. `act_move` says that there are no others, and `Move.act_eq` that a move is what its
  action does. -/

namespace ServiceAccess.ClientCache

variable {ρ κ ε : Type}

/-! ## Actions -/

/-- What a step does once its continuation is off the list. -/
inductive Action (ρ κ ε : Type) where
  /-- Find a client for a key. -/
  | acquire (key fingerprint : String) (request : ρ)
  /-- Sweep out what was built with other credentials. -/
  | evictStale (fingerprint : String)
  /-- Begin to wait for the flights. -/
  | clear
  /-- Go on after a create call. -/
  | created (generation : Nat) (result : Except ε κ)
  /-- Go on after a release. -/
  | released (release : Nat) (result : Except ε Unit)
  /-- Answer the callers of a creation. -/
  | answer (generation : Nat)
  /-- Sweep for a clear call. -/
  | sweep (call : Nat)
  /-- Answer a call that has swept. -/
  | conclude (call : Nat)
  /-- Do nothing. -/
  | rest

/-- The action of a continuation. -/
def Job.action : Job → Action ρ κ ε
  | .answer generation => .answer generation
  | .sweep call => .sweep call
  | .conclude call => .conclude call
  | .release number => .released number (.ok ())

/-- Do what an action says. -/
def act [DecidableEq κ] (c : ClientCache ρ κ ε) : Action ρ κ ε → Turn ρ κ ε
  | .acquire key fingerprint request => c.acquire key fingerprint request
  | .evictStale fingerprint => c.evictStale fingerprint
  | .clear => c.clear
  | .created generation result => c.settleCreation generation result
  | .released number result => c.settleRelease number result
  | .answer generation => c.answerCallers generation
  | .sweep call => c.sweepFor call
  | .conclude call => c.concludeSweep call
  | .rest => (c, [])

/-- The cache with the list of continuations that an input leaves, and the action of the input. -/
def occasion (c : ClientCache ρ κ ε) : Input ρ κ ε → ClientCache ρ κ ε × Action ρ κ ε
  | .acquire key fingerprint request => (c, .acquire key fingerprint request)
  | .evictStale fingerprint => (c, .evictStale fingerprint)
  | .clear => (c, .clear)
  | .created generation result => (c, .created generation result)
  | .released number result => (c, .released number result)
  | .resume => match c.jobs with
    | [] => (c, .rest)
    | job :: jobs => ({ c with jobs := jobs }, job.action)

/-- The input that alone can bring an action about; continuations bring about the others. -/
def Action.input? : Action ρ κ ε → Option (Input ρ κ ε)
  | .acquire key fingerprint request => some (.acquire key fingerprint request)
  | .evictStale fingerprint => some (.evictStale fingerprint)
  | .clear => some .clear
  | .created generation result => some (.created generation result)
  | _ => none

/-- Calls and ends of create calls are answered at once. -/
theorem eq_of_occasion {c : ClientCache ρ κ ε} {i j : Input ρ κ ε} {a : Action ρ κ ε}
    (h : (c.occasion i).2 = a) (own : a.input? = some j) : i = j := by
  subst h
  cases i with
  | resume =>
    simp only [occasion] at own
    split at own
    · simp [Action.input?] at own
    · next job _ _ => cases job <;> simp [Job.action, Action.input?] at own
  | released => simp [occasion, Action.input?] at own
  | _ => exact Option.some.inj own

/-- Every step is the action of its occasion. -/
theorem step_eq_act [DecidableEq κ] (c : ClientCache ρ κ ε) (i : Input ρ κ ε) :
    c.step i = (c.occasion i).1.act (c.occasion i).2 := by
  cases i with
  | resume =>
    -- the oldest continuation, if there is one, stands for its action
    simp only [step, resume, occasion]
    cases c.jobs with
    | nil => rfl
    | cons job jobs => cases job <;> rfl
  | _ => rfl

/-- An input touches only the list of continuations before it acts. -/
theorem occasion_fst (c : ClientCache ρ κ ε) (i : Input ρ κ ε) :
    ∃ jobs, (c.occasion i).1 = { c with jobs := jobs } := by
  cases i with
  | resume =>
    simp only [occasion]
    cases c.jobs with
    | nil => exact ⟨c.jobs, rfl⟩
    | cons job jobs => exact ⟨jobs, rfl⟩
  | _ => exact ⟨c.jobs, rfl⟩

/-- A continuation stays on the list, or it is taken off to be run. -/
theorem occasion_of_mem_jobs {c : ClientCache ρ κ ε} (i : Input ρ κ ε) {job : Job} (here : job ∈ c.jobs) :
    job ∈ (c.occasion i).1.jobs ∨ (c.occasion i).2 = job.action := by
  cases i with
  | resume =>
    simp only [occasion]
    cases list : c.jobs with
    | nil => simp [list] at here
    | cons first rest =>
      rw [list] at here
      rcases List.mem_cons.1 here with rfl | later
      · exact .inr rfl
      · exact .inl later
  | _ => exact .inl here

/-- What is left on the list has been on the list. -/
theorem mem_jobs_of_occasion {c : ClientCache ρ κ ε} {i : Input ρ κ ε} {job : Job}
    (here : job ∈ (c.occasion i).1.jobs) : job ∈ c.jobs := by
  cases i with
  | resume =>
    simp only [occasion] at here
    split at here
    · exact here
    · next list => exact list ▸ List.mem_cons_of_mem _ here
  | _ => exact here

/-- What only a continuation can do is on the list when it is done. -/
theorem mem_jobs_of_action {c : ClientCache ρ κ ε} {i : Input ρ κ ε} (job : Job)
    (own : ∀ n, job ≠ .release n) (now : (c.occasion i).2 = job.action) : job ∈ c.jobs := by
  cases i with
  | resume =>
    simp only [occasion] at now
    split at now
    · cases job <;> cases now
    · next first rest list =>
      have same : first = job := by
        cases first <;> cases job <;> cases now <;> rfl
      exact list ▸ same ▸ List.mem_cons_self
  | released => cases job <;> first | exact absurd rfl (own _) | cases now
  | _ => cases job <;> cases now

/-! ## Sound caches -/

/-- **The numbers and references of a cache make sense.** -/
structure Sound (c : ClientCache ρ κ ε) : Prop where
  /-- Creations are numbered up to `generation`. -/
  creation_le : ∀ g cr, c.creations.get? g = some cr → g ≤ c.generation
  /-- Stored clients come from numbered creations. -/
  entry_le : ∀ key e, c.entries.get? key = some e → e.generation ≤ c.generation
  /-- A flight is a creation under way, for its key and with its fingerprint. -/
  flight_creation : ∀ key f, c.flights.get? key = some f →
    ∃ cr, c.creations.get? f.generation = some cr ∧ cr.key = key ∧ cr.fingerprint = f.fingerprint
  /-- Releases are numbered below `releases`. -/
  owner_lt : ∀ n o, c.owners.get? n = some o → n < c.releases
  /-- A creation that owns a release is under way. -/
  owner_under : ∀ n g, c.owners.get? n = some (.creation g) → c.creations.get? g ≠ none
  /-- A creation that owns a release waits for it. -/
  owner_waits : ∀ n g cr, c.owners.get? n = some (.creation g) → c.creations.get? g = some cr →
    cr.stage ≠ .connecting ∧ ∀ outcome, cr.stage ≠ .finished outcome
  /-- A creation owns one release at most. -/
  owner_unique : ∀ n m g, c.owners.get? n = some (.creation g) →
    c.owners.get? m = some (.creation g) → n = m

/-- The empty cache is sound. -/
theorem sound_empty (disposes : Bool) : Sound (.empty disposes : ClientCache ρ κ ε) := by
  constructor <;> simp [empty]

/-- Soundness does not depend on the continuations. -/
theorem Sound.withJobs {c : ClientCache ρ κ ε} (h : c.Sound) (jobs : List Job) :
    Sound { c with jobs := jobs } :=
  ⟨h.creation_le, h.entry_le, h.flight_creation, h.owner_lt, h.owner_under, h.owner_waits,
    h.owner_unique⟩

/-- A creation that owns a release is numbered. -/
theorem Sound.owner_le {c : ClientCache ρ κ ε} (h : c.Sound) (n g : Nat)
    (owned : c.owners.get? n = some (.creation g)) : g ≤ c.generation := by
  obtain ⟨cr, under⟩ := Option.ne_none_iff_exists'.1 (h.owner_under n g owned)
  exact h.creation_le g cr under

/-- The creation that owns a release, and the stage in which it waits. -/
theorem Sound.owner_creation {c : ClientCache ρ κ ε} (h : c.Sound) {n g : Nat}
    (owned : c.owners.get? n = some (.creation g)) :
    ∃ cr, c.creations.get? g = some cr ∧
      (cr.stage = .releasing ∨ ∃ x, cr.stage = .replacing x) := by
  obtain ⟨cr, under⟩ := Option.ne_none_iff_exists'.1 (h.owner_under n g owned)
  obtain ⟨other, unfinished⟩ := h.owner_waits n g cr owned under
  refine ⟨cr, under, ?_⟩
  cases stage : cr.stage with
  | releasing => exact .inl rfl
  | connecting => exact absurd stage other
  | replacing x => exact .inr ⟨x, rfl⟩
  | finished outcome => exact absurd stage (unfinished outcome)

/-! ## Moves -/

/-- **The changes that an action can make.** Every constructor names its occasion, the fields that it
writes and the effects that it asks for. -/
inductive Move [DecidableEq κ] (c : ClientCache ρ κ ε) :
    Action ρ κ ε → ClientCache ρ κ ε → List (Effect ρ κ ε) → Prop where
  /-- A stored client with the right fingerprint is handed out. -/
  | hit {key fp : String} {request : ρ} {e : Entry κ} (stored : c.entries.get? key = some e)
      (same : e.fingerprint = fp) :
      Move c (.acquire key fp request) { c with calls := c.calls + 1 }
        [.note (.hit key), .settled c.calls (.ok (.client e.client))]
  /-- A call joins the flight of its key. -/
  | joined {key fp : String} {request : ρ} {g : Nat} {cr : Creation ρ κ ε}
      (unusable : ∀ e, c.entries.get? key = some e → e.fingerprint ≠ fp)
      (flight : c.flights.get? key = some ⟨fp, g⟩) (under : c.creations.get? g = some cr) :
      Move c (.acquire key fp request)
        { c with
          calls := c.calls + 1
          creations := c.creations.insert g { cr with callers := cr.callers ++ [c.calls] } }
        [.note (.joined key)]
  /-- A creation starts for a key without a stored client. -/
  | started {key fp : String} {request : ρ} (absent : c.entries.get? key = none)
      (apart : ∀ f, c.flights.get? key = some f → f.fingerprint ≠ fp) :
      Move c (.acquire key fp request)
        { c with
          calls := c.calls + 1
          generation := c.generation + 1
          flights := c.flights.insert key ⟨fp, c.generation + 1⟩
          creations := c.creations.insert (c.generation + 1)
            ⟨key, fp, request, .connecting, [c.calls]⟩ }
        [.note (.missed key), .create (c.generation + 1) request]
  /-- A creation starts with the release of a client built with other credentials. -/
  | restarted {key fp : String} {request : ρ} {e : Entry κ} (stored : c.entries.get? key = some e)
      (stale : e.fingerprint ≠ fp) (apart : ∀ f, c.flights.get? key = some f → f.fingerprint ≠ fp) :
      Move c (.acquire key fp request)
        { c with
          calls := c.calls + 1
          generation := c.generation + 1
          entries := c.entries.erase key
          flights := c.flights.insert key ⟨fp, c.generation + 1⟩
          creations := c.creations.insert (c.generation + 1)
            ⟨key, fp, request, .releasing, [c.calls]⟩
          releases := c.releases + 1
          owners := c.owners.insert c.releases (.creation (c.generation + 1))
          jobs := c.releaseJobs }
        (.note (.evicted key) :: c.releaseEffects e.client)
  /-- What was built with other credentials is swept out. -/
  | evicted {fp : String} {clients : List κ}
      (swept : clients = c.detached
        ++ (c.entries.filter fun _ e => e.fingerprint ≠ fp).values.map Entry.client) :
      Move c (.evictStale fp)
        { c with
          calls := c.calls + 1
          detached := []
          entries := c.entries.filter fun _ e => e.fingerprint = fp
          releases := c.releases + clients.length
          owners := c.sweepOwners c.calls clients.length
          sweeps := c.sweeps.insert c.calls ⟨.count clients.length,
            (List.range' c.releases clients.length).map fun n => (n, none)⟩
          jobs := if clients.isEmpty then c.jobs ++ [.conclude c.calls]
            else c.sweepJobs clients.length }
        (c.sweepEffects clients)
  /-- A clear call begins to wait. -/
  | cleared :
      Move c .clear
        { c with
          calls := c.calls + 1
          waiting := c.waiting.insert c.calls
            ⟨c.generation, c.flights.values.map Flight.generation⟩
          jobs := if (c.flights.values.map Flight.generation).isEmpty
            then c.jobs ++ [.sweep c.calls] else c.jobs } []
  /-- The client of a creation is stored where none was. -/
  | stored {g : Nat} {x : κ} {cr : Creation ρ κ ε} (under : c.creations.get? g = some cr)
      (stage : cr.stage = .connecting) (absent : c.entries.get? cr.key = none) :
      Move c (.created g (.ok x))
        { c with
          entries := c.entries.insert cr.key ⟨x, cr.fingerprint, g⟩
          creations := c.creations.insert g { cr with stage := .finished (.ok x) }
          jobs := c.jobs ++ [.answer g] } []
  /-- The client of a creation is set aside because that of a later one is stored. -/
  | superseded {g : Nat} {x : κ} {cr : Creation ρ κ ε} {e : Entry κ}
      (under : c.creations.get? g = some cr) (stage : cr.stage = .connecting)
      (present : c.entries.get? cr.key = some e) (older : g < e.generation) :
      Move c (.created g (.ok x))
        { c with
          detached := if x ∈ c.detached then c.detached else c.detached ++ [x]
          creations := c.creations.insert g { cr with stage := .finished (.ok x) }
          jobs := c.jobs ++ [.answer g] }
        [.note (.superseded cr.key)]
  /-- The client of a creation waits until the stored one of an earlier creation is released. -/
  | replacing {g : Nat} {x : κ} {cr : Creation ρ κ ε} {e : Entry κ}
      (under : c.creations.get? g = some cr) (stage : cr.stage = .connecting)
      (present : c.entries.get? cr.key = some e) (newer : e.generation ≤ g) :
      Move c (.created g (.ok x))
        { c with
          creations := c.creations.insert g { cr with stage := .replacing x }
          releases := c.releases + 1
          owners := c.owners.insert c.releases (.creation g)
          jobs := c.releaseJobs }
        (c.releaseEffects e.client)
  /-- The create call of a creation has failed. -/
  | failed {g : Nat} {failure : ε} {cr : Creation ρ κ ε} (under : c.creations.get? g = some cr)
      (stage : cr.stage = .connecting) :
      Move c (.created g (.error failure))
        { c with
          creations := c.creations.insert g { cr with stage := .finished (.error failure) }
          jobs := c.jobs ++ [.answer g] } []
  /-- A creation makes its create call once the client with other credentials is released. -/
  | connected {n g : Nat} {cr : Creation ρ κ ε} (owned : c.owners.get? n = some (.creation g))
      (under : c.creations.get? g = some cr) (stage : cr.stage = .releasing) :
      Move c (.released n (.ok ()))
        { c with
          owners := c.owners.erase n
          creations := c.creations.insert g { cr with stage := .connecting } }
        [.note (.missed cr.key), .create g cr.request]
  /-- The client of a creation is stored once the one before it is released. -/
  | replaced {n g : Nat} {x : κ} {cr : Creation ρ κ ε}
      (owned : c.owners.get? n = some (.creation g)) (under : c.creations.get? g = some cr)
      (stage : cr.stage = .replacing x) :
      Move c (.released n (.ok ()))
        { c with
          owners := c.owners.erase n
          entries := c.entries.insert cr.key ⟨x, cr.fingerprint, g⟩
          creations := c.creations.insert g { cr with stage := .finished (.ok x) }
          jobs := c.jobs ++ [.answer g] } []
  /-- A creation ends with the failure of the release that it waited for. -/
  | aborted {n g : Nat} {failure : ε} {cr : Creation ρ κ ε}
      (owned : c.owners.get? n = some (.creation g)) (under : c.creations.get? g = some cr)
      (stage : cr.stage = .releasing ∨ ∃ x, cr.stage = .replacing x) :
      Move c (.released n (.error failure))
        { c with
          owners := c.owners.erase n
          creations := c.creations.insert g { cr with stage := .finished (.error failure) }
          jobs := c.jobs ++ [.answer g] } []
  /-- A sweep notes the end of one of its releases. -/
  | noted {n call : Nat} {result : Except ε Unit} {s : Sweep κ ε}
      (owned : c.owners.get? n = some (.sweep call)) (sweeping : c.sweeps.get? call = some s) :
      Move c (.released n result)
        { c with
          owners := c.owners.erase n
          sweeps := c.sweeps.insert call (s.note n result)
          jobs := if (s.note n result).isOver then c.jobs ++ [.conclude call] else c.jobs } []
  /-- A release ends whose sweep has been answered. -/
  | forgotten {n call : Nat} {result : Except ε Unit}
      (owned : c.owners.get? n = some (.sweep call)) (ended : c.sweeps.get? call = none) :
      Move c (.released n result) { c with owners := c.owners.erase n } []
  /-- The callers of a creation are answered, and the clear calls hear of its end. -/
  | answered {g : Nat} {outcome : Except ε κ} {cr : Creation ρ κ ε}
      (under : c.creations.get? g = some cr) (stage : cr.stage = .finished outcome) :
      Move c (.answer g)
        { c with
          creations := c.creations.erase g
          flights := c.flights.filter fun k f =>
            !(decide (k = cr.key) && decide (f.generation = g))
          waiting := c.waiting.map fun _ w =>
            { w with awaited := w.awaited.filter fun h => !decide (h = g) }
          jobs := c.jobs ++ (c.waiting.filter fun _ w =>
            w.awaited.contains g && w.awaited.all fun h => h = g).keys.map .sweep }
        (cr.callers.map fun call => .settled call (outcome.map .client))
  /-- A clear call sweeps out what is no younger than it. -/
  | swept {call : Nat} {w : Waiting} {clients : List κ} (waits : c.waiting.get? call = some w)
      (swept : clients = c.detached
        ++ (c.entries.filter fun _ e => e.generation ≤ w.horizon).values.map Entry.client) :
      Move c (.sweep call)
        { c with
          waiting := c.waiting.erase call
          detached := []
          entries := c.entries.filter fun _ e => !decide (e.generation ≤ w.horizon)
          releases := c.releases + clients.length
          owners := c.sweepOwners call clients.length
          sweeps := c.sweeps.insert call ⟨.done,
            (List.range' c.releases clients.length).map fun n => (n, none)⟩
          jobs := if clients.isEmpty then c.jobs ++ [.conclude call]
            else c.sweepJobs clients.length }
        ((if clients.isEmpty then [] else [.note (.released clients.length)])
          ++ c.sweepEffects clients)
  /-- A call that has swept is answered. -/
  | concluded {call : Nat} {s : Sweep κ ε} (sweeping : c.sweeps.get? call = some s) :
      Move c (.conclude call) { c with sweeps := c.sweeps.erase call } [.settled call s.outcome]
  /-- The action finds nothing to do. -/
  | idle {a : Action ρ κ ε} (nothing : match a with
      | .created g _ => ∀ cr, c.creations.get? g = some cr → cr.stage ≠ .connecting
      | .released n _ => c.owners.get? n = none
      | .answer g => ∀ cr outcome, c.creations.get? g = some cr → cr.stage ≠ .finished outcome
      | .sweep call => c.waiting.get? call = none
      | .conclude call => c.sweeps.get? call = none
      | .rest => True
      | _ => False) :
      Move c a c []

variable [DecidableEq κ]

private theorem acquire_move {c : ClientCache ρ κ ε} (sound : c.Sound) (key fp : String)
    (request : ρ) :
    Move c (.acquire key fp request) (c.acquire key fp request).1 (c.acquire key fp request).2 := by
  simp only [acquire]
  cases usable : (c.entries.get? key).filter fun e => e.fingerprint = fp with
  | some e =>
    obtain ⟨stored, same⟩ := Option.filter_eq_some_iff.1 usable
    exact .hit stored (by simpa using same)
  | none =>
    have unusable : ∀ e, c.entries.get? key = some e → e.fingerprint ≠ fp := by
      simpa [Option.filter_eq_none_iff] using usable
    cases joinable : (c.flights.get? key).filter fun f => f.fingerprint = fp with
    | some f =>
      -- there is a flight to join: soundness says that its creation is under way
      obtain ⟨flight, same⟩ := Option.filter_eq_some_iff.1 joinable
      obtain ⟨cr, under, -, -⟩ := sound.flight_creation key f flight
      obtain rfl : f.fingerprint = fp := by simpa using same
      simp only [revise, under]
      exact .joined unusable flight under
    | none =>
      have apart : ∀ f, c.flights.get? key = some f → f.fingerprint ≠ fp := by
        simpa [Option.filter_eq_none_iff] using joinable
      -- a creation starts, and a stored client with other credentials is released first
      simp only [start]
      cases stored : c.entries.get? key with
      | none =>
        simp only [connect]
        rw [enter_eq (Table.get?_insert_self ..)]
        have move : Move c (.acquire key fp request) _ _ := .started stored apart
        simpa [Table.erase_of_absent stored] using move
      | some e =>
        simp only [release_eq]
        exact .restarted stored (unusable e stored) apart

private theorem settleCreation_move (c : ClientCache ρ κ ε) (g : Nat) (result : Except ε κ) :
    Move c (.created g result) (c.settleCreation g result).1 (c.settleCreation g result).2 := by
  simp only [settleCreation]
  cases under : c.creations.get? g with
  | none => exact .idle (by simp [under])
  | some cr =>
    cases stage : cr.stage with
    | connecting =>
      cases result with
      | error failure =>
        simp only [stage, finish_eq under]
        exact .failed under stage
      | ok x =>
        simp only [stage, settle]
        cases present : c.entries.get? cr.key with
        | none =>
          simp only [store, finish, enter, revise, schedule, under]
          exact .stored under stage present
        | some e =>
          by_cases older : g < e.generation
          · simp only [if_pos older, detach, finish, enter, revise, schedule, under]
            exact .superseded under stage present older
          · simp only [if_neg older, enter_eq under, release_eq]
            exact .replacing under stage present (Nat.le_of_not_lt older)
    | _ =>
      simp only [stage]
      exact .idle (by simp [under, stage])

private theorem settleRelease_move {c : ClientCache ρ κ ε} (sound : c.Sound) (n : Nat)
    (result : Except ε Unit) :
    Move c (.released n result) (c.settleRelease n result).1 (c.settleRelease n result).2 := by
  simp only [settleRelease]
  cases owned : c.owners.get? n with
  | none => exact .idle owned
  | some owner =>
    cases owner with
    | creation g =>
      -- soundness rules out the two stages in which a creation owns no release
      obtain ⟨cr, under, waits⟩ := sound.owner_creation owned
      simp only [proceed, under]
      cases result with
      | error failure =>
        have move : Move c (.released n (.error failure)) _ _ := .aborted owned under waits
        obtain stage | ⟨x, stage⟩ := waits <;>
          simpa only [stage, finish, enter, revise, schedule, under] using move
      | ok _ =>
        rcases waits with stage | ⟨x, stage⟩
        · simp only [stage, connect, enter, revise, under]
          exact .connected owned under stage
        · simp only [stage, store, finish, enter, revise, schedule, under]
          exact .replaced owned under stage
    | sweep call =>
      simp only [noteRelease]
      cases sweeping : c.sweeps.get? call with
      | none => exact .forgotten owned sweeping
      | some s =>
        have move : Move c (.released n result) _ _ := .noted owned sweeping
        by_cases ended : (s.note n result).isOver <;> simpa [ended, schedule] using move

private theorem answerCallers_move (c : ClientCache ρ κ ε) (g : Nat) :
    Move c (.answer g) (c.answerCallers g).1 (c.answerCallers g).2 := by
  rw [answerCallers]
  split
  · next under => exact .answered under rfl
  · next other =>
    refine .idle fun cr outcome under stage => ?_
    obtain ⟨key, fingerprint, request, _, callers⟩ := cr
    subst stage
    exact other _ _ _ _ _ under

/-- **There are no other changes.** Whatever a sound cache does is one of the moves. -/
theorem act_move {c : ClientCache ρ κ ε} (sound : c.Sound) (a : Action ρ κ ε) :
    Move c a (c.act a).1 (c.act a).2 := by
  cases a with
  | acquire key fp request => exact acquire_move sound key fp request
  | evictStale fp =>
    simp only [act, evictStale, sweepOut_eq]
    exact .evicted rfl
  | clear =>
    rw [act, clear_eq]
    exact .cleared
  | created g result => exact settleCreation_move c g result
  | released n result => exact settleRelease_move sound n result
  | answer g => exact answerCallers_move c g
  | sweep call =>
    simp only [act, sweepFor]
    cases waits : c.waiting.get? call with
    | none => exact .idle waits
    | some w =>
      simp only [sweepOut_eq]
      exact .swept waits rfl
  | conclude call =>
    simp only [act, concludeSweep]
    cases sweeping : c.sweeps.get? call with
    | none => exact .idle sweeping
    | some s => exact .concluded sweeping
  | rest => exact .idle trivial

/-- **A move is what its action does.** -/
theorem Move.act_eq {c c' : ClientCache ρ κ ε} {a : Action ρ κ ε} {es : List (Effect ρ κ ε)}
    (m : Move c a c' es) : c.act a = (c', es) := by
  cases m with
  | @hit key fp request e stored same =>
    have usable : (c.entries.get? key).filter (fun e => e.fingerprint = fp) = some e :=
      Option.filter_eq_some_iff.2 ⟨stored, by simpa using same⟩
    simp only [act, acquire, usable]
  | @joined key fp request g cr unusable flight under =>
    have unusable : (c.entries.get? key).filter (fun e => e.fingerprint = fp) = none := by
      simpa [Option.filter_eq_none_iff] using unusable
    have joinable : (c.flights.get? key).filter (fun f => f.fingerprint = fp) = some ⟨fp, g⟩ :=
      Option.filter_eq_some_iff.2 ⟨flight, by simp⟩
    simp only [act, acquire, unusable, joinable, revise, under]
  | @started key fp request absent apart =>
    have apart : (c.flights.get? key).filter (fun f => f.fingerprint = fp) = none := by
      simpa [Option.filter_eq_none_iff] using apart
    simp [act, acquire, apart, absent, start, connect, enter, revise, Table.erase_of_absent]
  | @restarted key fp request e stored stale apart =>
    have unusable : (c.entries.get? key).filter (fun e => e.fingerprint = fp) = none := by
      simpa [Option.filter_eq_none_iff, stored] using stale
    have apart : (c.flights.get? key).filter (fun f => f.fingerprint = fp) = none := by
      simpa [Option.filter_eq_none_iff] using apart
    -- the search for a usable client comes first, or else the simplifier would search again
    simp only [act, acquire, unusable, apart]
    simp only [start, stored, release_eq]
    rfl
  | evicted swept =>
    subst swept
    simp only [act, evictStale, sweepOut_eq]
    rfl
  | cleared => rw [act, clear_eq]
  -- the end of a create call
  | stored under stage absent =>
    simp [act, settleCreation, under, stage, settle, absent, store, finish, enter, revise, schedule]
  | superseded under stage present older =>
    simp [act, settleCreation, under, stage, settle, present, older, detach, finish, enter, revise,
      schedule]
  | replacing under stage present newer =>
    simp only [act, settleCreation, under, stage, settle, present, if_neg (Nat.not_lt.2 newer),
      enter_eq under, release_eq]
    rfl
  | failed under stage => simp only [act, settleCreation, under, stage, finish_eq under]
  -- the end of a release
  | connected owned under stage =>
    simp only [act, settleRelease, owned, proceed, under, stage, connect, enter, revise]
  | replaced owned under stage =>
    simp only [act, settleRelease, owned, proceed, under, stage, store, finish, enter, revise, schedule]
  | aborted owned under stage =>
    obtain stage | ⟨x, stage⟩ := stage <;>
      simp only [act, settleRelease, owned, proceed, under, stage, finish, enter, revise, schedule]
  | @noted n call result s owned sweeping =>
    by_cases ended : (s.note n result).isOver <;>
      simp [act, settleRelease, owned, noteRelease, sweeping, ended, schedule]
  | forgotten owned ended => simp only [act, settleRelease, owned, noteRelease, ended]
  | @answered g outcome cr under stage =>
    obtain ⟨key, fingerprint, request, _, callers⟩ := cr
    subst stage
    simp only [act, answerCallers, under, notifyWaiting]
  | swept waits swept =>
    subst swept
    simp only [act, sweepFor, waits, sweepOut_eq]
    rfl
  | concluded sweeping => simp only [act, concludeSweep, sweeping]
  | idle nothing =>
    cases a with
    | created g result =>
      simp only [act, settleCreation]
      split
      · rfl
      · next cr under =>
        have ended := nothing cr under
        split <;> simp_all
    | released => simp only [act, settleRelease, nothing]
    | answer g =>
      simp only [act, answerCallers]
      split
      · next under => exact absurd rfl (nothing _ _ under)
      · rfl
    | sweep => simp only [act, sweepFor, nothing]
    | conclude => simp only [act, concludeSweep, nothing]
    | rest => rfl
    | _ => exact nothing.elim

end ServiceAccess.ClientCache

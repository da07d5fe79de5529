import Mathlib.Logic.Function.Basic
import ServiceAccess.Proofs.ClientCache.Overdue

/-! # A cache with one fingerprint is a memo table, unless it is late

As long as the credentials do not change, entries, flights, generations and the clients set aside come down to a table
with three phases for each key.

* **`Phase`**, **`Memo`**: a key is empty, being created, or ready with a client.
* **`Memo.Step`**: the steps of a memo table, with what they ask for.
* **`memo`**: the memo table that a cache shows.
* **`Move.memo_step`**: every move of a cache with one fingerprint is a step of it, unless a call finds its key stuck.
* **`Memoizes`**: a run is one of a memo table. **`memoizes_iff`** says that a run of calls with one fingerprint is
  exactly when no call comes for a key that is overdue. -/

namespace ServiceAccess.ClientCache

variable {ρ κ ε : Type}

/-! ## Memo tables -/

/-- The phase of a key. -/
inductive Phase (κ : Type) where
  /-- There is nothing. -/
  | empty
  /-- A creation is under way. -/
  | creating (generation : Nat)
  /-- There is a client. -/
  | ready (client : κ)

/-- A memo table: the phase of every key. -/
abbrev Memo (κ : Type) := String → Phase κ

/-- An effect that makes no create call. -/
def Effect.Uncreating (e : Effect ρ κ ε) : Prop := ∀ g request, e ≠ .create g request

/-- **Clients are released from a memo table.** Their keys were ready and are empty, and no other key changes. Each
client is handed over once, where there is a hook. -/
structure Memo.Releases (disposes : Bool) (t t' : Memo κ) (es : List (Effect ρ κ ε))
    (gone : List (String × κ)) : Prop where
  /-- A key goes once. -/
  once : (gone.map Prod.fst).Nodup
  /-- It was ready. -/
  were : ∀ key x, (key, x) ∈ gone → t key = .ready x
  /-- It is empty. -/
  go : ∀ key x, (key, x) ∈ gone → t' key = .empty
  /-- All other keys stay. -/
  stay : ∀ key, key ∉ gone.map Prod.fst → t' key = t key
  /-- The clients are handed over. -/
  handed : handed es = if disposes then gone.map Prod.snd else []
  /-- Nothing is created. -/
  uncreating : ∀ e ∈ es, e.Uncreating

open Function (update) in
/-- **The steps of a memo table** of clients with one fingerprint, when `call` is the number of the next call. -/
inductive Memo.Step (fp : String) (disposes : Bool) (call : Nat) (t : Memo κ) :
    Action ρ κ ε → Memo κ → List (Effect ρ κ ε) → Prop where
  /-- A call for an empty key starts one creation. -/
  | starts {key : String} {request : ρ} {g : Nat} (absent : t key = .empty) (fresh : ∀ k, t k ≠ .creating g) :
      Step fp disposes call t (.acquire key fp request) (update t key (.creating g))
        [.note (.missed key), .create g request]
  /-- A call for a key that is being created joins the creation. -/
  | joins {key : String} {request : ρ} {g : Nat} (flying : t key = .creating g) :
      Step fp disposes call t (.acquire key fp request) t [.note (.joined key)]
  /-- A call for a ready key gets the client. -/
  | returns {key : String} {request : ρ} {x : κ} (stored : t key = .ready x) :
      Step fp disposes call t (.acquire key fp request) t
        [.note (.hit key), .settled call (.ok (.client x))]
  /-- A creation succeeds: its key is ready. -/
  | succeeds {key : String} {g : Nat} {x : κ} (flying : t key = .creating g) :
      Step fp disposes call t (.created g (.ok x)) (update t key (.ready x)) []
  /-- A creation fails: its key is empty. -/
  | fails {key : String} {g : Nat} {failure : ε} (flying : t key = .creating g) :
      Step fp disposes call t (.created g (.error failure)) (update t key .empty) []
  /-- The callers of a creation that is over are answered. -/
  | answers {g : Nat} {outcome : Except ε κ} {callers : List Nat} (finished : ∀ k, t k ≠ .creating g) :
      Step fp disposes call t (.answer g) t (callers.map fun n => .settled n (outcome.map .client))
  /-- All clients are released for other credentials, and none for the same. -/
  | evicts {f : String} {t' : Memo κ} {es : List (Effect ρ κ ε)} {gone : List (String × κ)}
      (releases : Memo.Releases disposes t t' es gone)
      (all : ∀ key x, t key = .ready x → ((key, x) ∈ gone ↔ f ≠ fp)) :
      Step fp disposes call t (.evictStale f) t' es
  /-- A clear call releases clients. -/
  | sweeps {n : Nat} {t' : Memo κ} {es : List (Effect ρ κ ε)} {gone : List (String × κ)}
      (releases : Memo.Releases disposes t t' es gone) :
      Step fp disposes call t (.sweep n) t' es
  /-- Nothing changes and nothing is handed over or created. -/
  | rests {a : Action ρ κ ε} {es : List (Effect ρ κ ε)}
      (uncalled : ∀ key f request, a ≠ .acquire key f request) (kept : ∀ f, a ≠ .evictStale f)
      (ended : ∀ key g result, a = .created g result → t key ≠ .creating g)
      (handed : handed es = []) (uncreating : ∀ e ∈ es, e.Uncreating) :
      Step fp disposes call t a t es

/-- A step leads to every table that is equal. -/
theorem Memo.Step.congr {fp : String} {disposes : Bool} {call : Nat} {t t' t'' : Memo κ}
    {a : Action ρ κ ε} {es : List (Effect ρ κ ε)} (h : t.Step fp disposes call a t' es)
    (same : t'' = t') : t.Step fp disposes call a t'' es := same ▸ h

/-- A call for an empty key makes a create call. -/
theorem Memo.Step.creates {fp key : String} {disposes : Bool} {call : Nat} {t t' : Memo κ} {request : ρ}
    {es : List (Effect ρ κ ε)} (h : t.Step fp disposes call (.acquire key fp request) t' es)
    (absent : t key = .empty) : ∃ g, .create g request ∈ es := by
  cases h with
  | starts => exact ⟨_, List.mem_cons_of_mem _ List.mem_cons_self⟩
  | joins flying => simp [absent] at flying
  | returns stored => simp [absent] at stored
  | rests uncalled => exact absurd rfl (uncalled key fp request)

/-! ## The memo table of a cache -/

/-- The flight of a key, while it is not over. -/
def flying? (c : ClientCache ρ κ ε) (key : String) : Option Flight :=
  (c.flights.get? key).filter fun f => (c.outcome? f.generation).isNone

/-- **The memo table of a cache.** -/
def memo (c : ClientCache ρ κ ε) : Memo κ := fun key =>
  match c.entries.get? key with
  | some e => .ready e.client
  | none => (c.flying? key).elim .empty fun f => .creating f.generation

variable {c c' : ClientCache ρ κ ε} {key : String}

theorem flying?_eq_some_iff {f : Flight} :
    c.flying? key = some f ↔ c.flights.get? key = some f ∧ c.outcome? f.generation = none := by
  rw [flying?, Option.filter_eq_some_iff, Option.isNone_iff_eq_none]

theorem flying?_eq_none_iff : c.flying? key = none ↔
    ∀ f, c.flights.get? key = some f → ∃ outcome, c.outcome? f.generation = some outcome := by
  simp only [flying?, Option.filter_eq_none_iff, Option.isNone_iff_eq_none, ← ne_eq, Option.ne_none_iff_exists']

/-- A key is ready with the client that is stored under it. -/
theorem memo_eq_ready_iff {x : κ} :
    c.memo key = .ready x ↔ ∃ e, c.entries.get? key = some e ∧ e.client = x := by
  rw [memo]
  cases c.entries.get? key with
  | some e => simp
  | none => cases c.flying? key <;> simp

/-- A key is being created while it has a flight that is not over and no stored client. -/
theorem memo_eq_creating_iff {g : Nat} : c.memo key = .creating g ↔ c.entries.get? key = none ∧
    ∃ f, c.flights.get? key = some f ∧ c.outcome? f.generation = none ∧ f.generation = g := by
  rw [memo]
  simp only [← and_assoc, ← flying?_eq_some_iff]
  cases c.entries.get? key with
  | some e => simp
  | none => cases c.flying? key <;> simp

/-- A key is empty when it has neither. -/
theorem memo_eq_empty_iff : c.memo key = .empty ↔ c.entries.get? key = none ∧
    ∀ f, c.flights.get? key = some f → ∃ outcome, c.outcome? f.generation = some outcome := by
  rw [memo, ← flying?_eq_none_iff]
  cases c.entries.get? key with
  | some e => simp
  | none => cases c.flying? key <;> simp

/-- A key that is stuck is empty. -/
theorem Stuck.memo_eq (h : c.Stuck key) : c.memo key = .empty := by
  obtain ⟨absent, flight, outcome, listed, ended⟩ := h
  refine memo_eq_empty_iff.2 ⟨absent, fun f listed' => ?_⟩
  obtain rfl := Option.some.inj (listed.symm.trans listed')
  exact ⟨outcome, ended⟩

/-- The phase of a key depends on its entry, its flight and the outcome of that. -/
theorem memo_congr (entry : c'.entries.get? key = c.entries.get? key)
    (flight : c'.flights.get? key = c.flights.get? key)
    (outcome : ∀ f, c.flights.get? key = some f → c'.outcome? f.generation = c.outcome? f.generation) :
    c'.memo key = c.memo key := by
  have flying : c'.flying? key = c.flying? key := by
    rw [flying?, flying?, flight]
    cases listed : c.flights.get? key with
    | none => rfl
    | some f => simp only [Option.filter_some, outcome f listed]
  rw [memo, memo, entry, flying]

/-- When one creation changes and what is kept for its key, all other keys stay in their phases. -/
theorem memo_update {g : Nat} {p : Phase κ} (here : c'.memo key = p)
    (entries : ∀ k, k ≠ key → c'.entries.get? k = c.entries.get? k)
    (flights : ∀ k, k ≠ key → c'.flights.get? k = c.flights.get? k)
    (creations : ∀ n, n ≠ g → c'.creations.get? n = c.creations.get? n)
    (own : ∀ k f, k ≠ key → c.flights.get? k = some f → f.generation ≠ g) :
    c'.memo = Function.update c.memo key p := by
  refine Function.eq_update_iff.2 ⟨here, fun k other => memo_congr (entries k other) (flights k other) ?_⟩
  intro f flight
  rw [outcome?, outcome?, creations _ (own k f other flight)]

section
variable {fp : String} (h : c.Uniform fp) {g : Nat} {cr : Creation ρ κ ε}
include h

/-- The key of a creation that waits for its create call is being created. -/
theorem Uniform.creating (under : c.creations.get? g = some cr) (stage : cr.stage = .connecting) :
    c.memo cr.key = .creating g :=
  memo_eq_creating_iff.2 ⟨h.absent under stage, _, h.listed g cr under, outcome?_of_connecting under stage, rfl⟩

/-- A key is being created only while a creation for it waits for its create call. -/
theorem Uniform.connecting (sound : c.Sound) (flying : c.memo key = .creating g) :
    ∃ cr, c.creations.get? g = some cr ∧ cr.key = key ∧ cr.stage = .connecting := by
  obtain ⟨-, f, flight, none, rfl⟩ := memo_eq_creating_iff.1 flying
  obtain ⟨-, cr, under, same⟩ := h.flight sound flight
  rcases h.stage _ cr under with ⟨stage, -⟩ | ⟨outcome, ended⟩
  · exact ⟨cr, under, same, stage⟩
  · simp [outcome?_eq_some_iff.2 ⟨cr, under, ended⟩] at none

/-- The flight of another key is another creation. -/
theorem Uniform.apart (sound : c.Sound) (under : c.creations.get? g = some cr) (k : String) (f : Flight)
    (other : k ≠ cr.key) (flight : c.flights.get? k = some f) : f.generation ≠ g := by
  rintro rfl
  obtain ⟨-, cr₀, under₀, rfl⟩ := h.flight sound flight
  exact other (congrArg Creation.key (Option.some.inj (under₀.symm.trans under)))

end

variable [DecidableEq κ]
variable {a : Action ρ κ ε} {es : List (Effect ρ κ ε)}

/-! ## Every step is one of the memo table -/

omit [DecidableEq κ] in
/-- A sweep hands over its clients where there is a hook, and starts no creation. -/
theorem handed_sweep (clients : List κ) : handed (c.sweepEffects clients)
    = (if c.disposes then clients else []) ∧ ∀ e ∈ c.sweepEffects (ε := ε) clients, e.Uncreating := by
  cases hook : c.disposes with
  | false => simp [sweepEffects, hook, handed]
  | true =>
    refine ⟨handed_sweepEffects hook clients, fun e here => ?_⟩
    rw [sweepEffects, if_pos hook] at here
    obtain ⟨_, -, rfl⟩ := List.mem_map.1 here
    simp [Effect.Uncreating]

/-- The stored clients that a test selects, with their keys. -/
def selected (c : ClientCache ρ κ ε) (p : Entry κ → Bool) : List (String × κ) :=
  (c.entries.filter fun _ e => p e).entries.map fun e => (e.1, e.2.client)

omit [DecidableEq κ] in
/-- What is selected is stored and passes the test. -/
theorem mem_selected {p : Entry κ → Bool} {x : κ} :
    (key, x) ∈ c.selected p ↔ ∃ e, c.entries.get? key = some e ∧ p e ∧ e.client = x := by
  simp only [selected, Table.entries_filter, List.mem_map, List.mem_filter, Prod.mk.injEq,
    Table.get?_eq_some_iff]
  constructor
  · rintro ⟨⟨_, e⟩, ⟨stored, goes⟩, rfl, rfl⟩
    exact ⟨e, stored, goes, rfl⟩
  · rintro ⟨e, stored, goes, rfl⟩
    exact ⟨(key, e), ⟨stored, goes⟩, rfl, rfl⟩

omit [DecidableEq κ] in
/-- The selected clients, in order. -/
theorem map_snd_selected (p : Entry κ → Bool) :
    (c.selected p).map Prod.snd = (c.entries.filter fun _ e => p e).values.map Entry.client := by
  simp [selected, Table.values, Function.comp_def]

omit [DecidableEq κ] in
/-- **Clients that are swept out are released from the memo table.** The creations that they come from are over. -/
theorem Uniform.memo_releases {fp : String} (h : c.Uniform fp) (sound : c.Sound) {p : Entry κ → Bool}
    (entries : c'.entries = c.entries.filter fun _ e => !p e) (flights : c'.flights = c.flights)
    (creations : c'.creations = c.creations)
    (asked : handed es = if c.disposes then (c.selected p).map Prod.snd else [])
    (uncreating : ∀ e ∈ es, e.Uncreating) :
    Memo.Releases c.disposes c.memo c'.memo es (c.selected p) where
  once := by
    rw [selected, List.map_map]
    exact Table.nodup_keys _
  were key x here := by
    obtain ⟨e, stored, -, rfl⟩ := mem_selected.1 here
    exact memo_eq_ready_iff.2 ⟨e, stored, rfl⟩
  go key x here := by
    obtain ⟨e, stored, goes, rfl⟩ := mem_selected.1 here
    refine memo_eq_empty_iff.2 ⟨by simp [entries, Table.get?_filter, stored, goes], fun f flight => ?_⟩
    rw [flights] at flight
    obtain ⟨-, cr, under, rfl⟩ := h.flight sound flight
    rcases h.stage _ cr under with ⟨-, absent⟩ | ⟨outcome, finished⟩
    · simp [absent] at stored
    · exact ⟨outcome, outcome?_eq_some_iff.2 ⟨cr, creations ▸ under, finished⟩⟩
  stay key other := by
    refine memo_congr ?_ (by rw [flights]) fun f _ => by rw [outcome?, outcome?, creations]
    rw [entries, Table.get?_filter]
    cases stored : c.entries.get? key with
    | none => rfl
    | some e =>
      have stays : p e = false := by
        by_contra goes
        refine other (List.mem_map.2 ⟨(key, e.client), mem_selected.2 ⟨e, stored, ?_, rfl⟩, rfl⟩)
        simpa using goes
      simp [stays]
  handed := asked
  uncreating := uncreating

/-- A call for a client is one step of the memo table, unless its key is stuck. -/
theorem Move.memo_acquire {fp : String} {request : ρ} (m : Move c (.acquire key fp request) c' es)
    (sound : c.Sound) (h : c.Uniform fp) (loose : ¬ c.Stuck key) :
    c.memo.Step fp c.disposes c.calls (.acquire key fp request) c'.memo es := by
  cases m with
  | @hit _ _ _ e stored _ => exact .returns (memo_eq_ready_iff.2 ⟨e, stored, rfl⟩)
  | @joined _ _ _ g cr unusable flight under =>
    have absent : c.entries.get? key = none := Option.eq_none_iff_forall_ne_some.2 fun e stored =>
      unusable e stored (h.entry key e stored)
    have unended : c.outcome? g = none := Option.eq_none_iff_forall_ne_some.2 fun outcome ended =>
      loose ⟨absent, _, outcome, flight, ended⟩
    have flying : c.memo key = .creating g := memo_eq_creating_iff.2 ⟨absent, _, flight, unended, rfl⟩
    refine (Memo.Step.joins flying).congr (funext fun k => memo_congr rfl rfl fun f _ => ?_)
    -- a caller more does not change what the creation comes to
    rw [outcome?, outcome?, Table.get?_insert]
    split
    · simp [‹f.generation = g›, under, Creation.outcome?]
    · rfl
  | started absent unequal =>
    have idle : c.flights.get? key = none := Option.eq_none_iff_forall_ne_some.2 fun f flight =>
      unequal f flight (h.flight sound flight).1
    have fresh : ∀ k, c.memo k ≠ .creating (c.generation + 1) := by
      intro k flying
      obtain ⟨cr, under, -⟩ := h.connecting sound flying
      exact Nat.not_succ_le_self _ (sound.creation_le _ cr under)
    refine (Memo.Step.starts (memo_eq_empty_iff.2 ⟨absent, by simp [idle]⟩) fresh).congr
      (memo_update (g := c.generation + 1) (memo_eq_creating_iff.2 ⟨absent, _, Table.get?_insert_self ..,
        outcome?_of_connecting (Table.get?_insert_self ..) rfl, rfl⟩) (fun _ _ => rfl) (fun k other => ?_)
        (fun n other => ?_) fun k f other flight => ?_)
    · rw [Table.get?_insert, if_neg other]
    · rw [Table.get?_insert, if_neg other]
    · obtain ⟨-, cr, under, -⟩ := h.flight sound flight
      exact Nat.ne_of_lt (Nat.lt_succ_of_le (sound.creation_le _ cr under))
  | restarted stored stale => exact absurd (h.entry key _ stored) stale
  | idle nothing => exact nothing.elim

/-- The end of a create call is one step of the memo table. -/
theorem Move.memo_created {g : Nat} {result : Except ε κ} (m : Move c (.created g result) c' es)
    (sound : c.Sound) {fp : String} (h : c.Uniform fp) :
    c.memo.Step fp c.disposes c.calls (.created g result) c'.memo es := by
  cases m with
  | stored under stage absent =>
    refine (Memo.Step.succeeds (h.creating under stage)).congr (memo_update
      (memo_eq_ready_iff.2 ⟨_, Table.get?_insert_self .., rfl⟩) (fun k other => ?_) (fun _ _ => rfl)
      (fun n other => ?_) (h.apart sound under))
    · rw [Table.get?_insert, if_neg other]
    · rw [Table.get?_insert, if_neg other]
  | failed under stage =>
    refine (Memo.Step.fails (h.creating under stage)).congr (memo_update ?_ (fun _ _ => rfl)
      (fun _ _ => rfl) (fun n other => ?_) (h.apart sound under))
    · refine memo_eq_empty_iff.2 ⟨h.absent under stage, fun f flight => ?_⟩
      -- its flight is over
      obtain rfl := Option.some.inj ((h.listed g _ under).symm.trans flight)
      exact ⟨_, outcome?_eq_some_iff.2 ⟨_, Table.get?_insert_self .., rfl⟩⟩
    · rw [Table.get?_insert, if_neg other]
  | superseded under stage present | replacing under stage present =>
    -- nothing is stored beside a creation that waits for its create call
    simp [h.absent under stage] at present
  | idle nothing =>
    refine .rests (by simp) (by simp) (fun key n _ same flying => ?_) rfl (by simp)
    obtain ⟨cr, under, -, stage⟩ := h.connecting sound flying
    exact nothing cr ((Action.created.inj same).1 ▸ under) stage

/-- The answer to the callers of a creation is one step of the memo table. -/
theorem Move.memo_answer {g : Nat} (m : Move c (.answer g) c' es) (sound : c.Sound) {fp : String}
    (h : c.Uniform fp) : c.memo.Step fp c.disposes c.calls (.answer g) c'.memo es := by
  cases m with
  | @answered _ outcome cr under stage =>
    have finished : c.outcome? g = some outcome := outcome?_eq_some_iff.2 ⟨cr, under, stage⟩
    have unflying : ∀ k, c.memo k ≠ .creating g := by
      intro k flying
      obtain ⟨-, f, -, none, rfl⟩ := memo_eq_creating_iff.1 flying
      simp [finished] at none
    refine (Memo.Step.answers unflying).congr (funext fun k => ?_)
    by_cases own : k = cr.key
    · -- the flight of its key has been over
      subst own
      have flight := h.listed g cr under
      cases stored : c.entries.get? cr.key with
      | some e =>
        have ready : c.memo cr.key = .ready e.client := memo_eq_ready_iff.2 ⟨e, stored, rfl⟩
        rw [ready]
        exact memo_eq_ready_iff.2 ⟨e, stored, rfl⟩
      | none =>
        have stuck : c.Stuck cr.key := ⟨stored, _, outcome, flight, finished⟩
        rw [stuck.memo_eq]
        exact memo_eq_empty_iff.2 ⟨stored, by simp [Table.get?_filter, flight]⟩
    · refine memo_congr rfl ?_ fun f flight => ?_
      · rw [Table.get?_filter]
        cases c.flights.get? k <;> simp [own]
      · rw [outcome?, outcome?, Table.get?_erase, if_neg (h.apart sound under k f own flight)]
  | idle nothing => exact .rests (by simp) (by simp) (by simp) rfl (by simp)

/-- An eviction is one step of the memo table. -/
theorem Move.memo_evict {f : String} (m : Move c (.evictStale f) c' es) (sound : c.Sound) {fp : String}
    (h : c.Uniform fp) : c.memo.Step fp c.disposes c.calls (.evictStale f) c'.memo es := by
  cases m with
  | @evicted _ clients swept =>
    rw [h.detached, List.nil_append, ← map_snd_selected] at swept
    obtain ⟨asked, uncreating⟩ := c.handed_sweep (ρ := ρ) (ε := ε) clients
    refine .evicts (h.memo_releases sound (p := fun e => e.fingerprint ≠ f) (by simp) rfl rfl (swept ▸ asked)
      uncreating) fun key x ready => ?_
    obtain ⟨e, stored, rfl⟩ := memo_eq_ready_iff.1 ready
    have same := h.entry key e stored
    rw [mem_selected]
    constructor
    · rintro ⟨e', stored', goes, -⟩
      obtain rfl := Option.some.inj (stored.symm.trans stored')
      rintro rfl
      simp [same] at goes
    · exact fun other => ⟨e, stored, by simpa [same] using other.symm, rfl⟩
  | idle nothing => exact nothing.elim

/-- The sweep of a clear call is one step of the memo table. -/
theorem Move.memo_sweep {n : Nat} (m : Move c (.sweep n) c' es) (sound : c.Sound) {fp : String}
    (h : c.Uniform fp) : c.memo.Step fp c.disposes c.calls (.sweep n) c'.memo es := by
  cases m with
  | @swept _ w clients waits swept =>
    rw [h.detached, List.nil_append, ← map_snd_selected] at swept
    obtain ⟨asked, uncreating⟩ := c.handed_sweep (ρ := ρ) (ε := ε) clients
    -- the note in front of the releases hands nothing over and creates nothing
    refine .sweeps (h.memo_releases sound (p := fun e => e.generation ≤ w.horizon) rfl rfl rfl ?_ ?_)
    · rw [handed_append, asked, swept]
      split <;> rfl
    · intro e here
      rcases List.mem_append.1 here with note | release
      · split at note
        · simp at note
        · obtain rfl := List.mem_singleton.1 note
          simp [Effect.Uncreating]
      · exact uncreating e release
  | idle nothing => exact .rests (by simp) (by simp) (by simp) rfl (by simp)

/-- **Every move of a cache with one fingerprint is a step of its memo table**, unless a call finds its key stuck. -/
theorem Move.memo_step (m : Move c a c' es) (sound : c.Sound) {fp : String} (h : c.Uniform fp)
    (call : ∀ key f request, a = .acquire key f request → f = fp ∧ ¬ c.Stuck key) :
    c.memo.Step fp c.disposes c.calls a c'.memo es := by
  cases a with
  | acquire key f request =>
    obtain ⟨rfl, loose⟩ := call key f request rfl
    exact m.memo_acquire sound h loose
  | evictStale f => exact m.memo_evict sound h
  | created g result => exact m.memo_created sound h
  | answer g => exact m.memo_answer sound h
  | sweep n => exact m.memo_sweep sound h
  | released n result =>
    cases m with
    | connected owned | replaced owned | aborted owned => exact absurd owned (h.unowned _ _)
    | _ => exact .rests (by simp) (by simp) (by simp) rfl (by simp)
  | clear | conclude | rest =>
    cases m <;> exact .rests (by simp) (by simp) (by simp) rfl (by simp [Effect.Uncreating])

/-- **Every step of a cache with one fingerprint is one of its memo table**, unless a call finds its key stuck. -/
theorem Uniform.memo_step {fp : String} (h : c.Uniform fp) (sound : c.Sound) (i : Input ρ κ ε)
    (call : ∀ key f request, i = .acquire key f request → f = fp ∧ ¬ c.Stuck key) :
    c.memo.Step fp c.disposes c.calls (c.occasion i).2 (c.step i).1.memo (c.step i).2 := by
  -- the continuations, of which the step may take one off the list, do not show in the memo table
  obtain ⟨jobs, move⟩ := exists_move sound i
  refine move.memo_step (sound.withJobs jobs) (h.withJobs jobs) fun key f request same => ?_
  exact call key f request (eq_of_occasion same rfl)

/-- A call for a key that is stuck makes no create call. -/
theorem Stuck.not_create {fp : String} {request : ρ} (h : c.Stuck key) (uniform : c.Uniform fp) (sound : c.Sound)
    (g : Nat) : .create g request ∉ (c.step (.acquire key fp request)).2 := by
  obtain ⟨absent, flight, -, listed, -⟩ := h
  have move : Move c (.acquire key fp request) _ _ := step_move sound (.acquire key fp request)
  generalize c.step (.acquire key fp request) = turn at move
  obtain ⟨c', es⟩ := turn
  cases move with
  | started _ apart => exact absurd (uniform.flight sound listed).1 (apart flight listed)
  | hit stored => simp [absent] at stored
  | restarted stored => simp [absent] at stored
  | joined => simp
  | idle nothing => exact nothing.elim

/-! ## Every run is one of a memo table -/

/-- A call that leaves its key to a creation is one of its callers. -/
theorem Move.caller_of_creating {fp : String} {request : ρ} (m : Move c (.acquire key fp request) c' es)
    {g : Nat} (flying : c'.memo key = .creating g) :
    ∃ cr, c'.creations.get? g = some cr ∧ c.calls ∈ cr.callers := by
  obtain ⟨absent, f, flight', -, rfl⟩ := memo_eq_creating_iff.1 flying
  cases m with
  | hit stored => simp [stored] at absent
  | joined unusable flight =>
    obtain rfl := Option.some.inj (flight.symm.trans flight')
    exact ⟨_, Table.get?_insert_self .., by simp⟩
  | started | restarted =>
    obtain rfl := Option.some.inj ((Table.get?_insert_self ..).symm.trans flight')
    exact ⟨_, Table.get?_insert_self .., by simp⟩
  | idle nothing => exact nothing.elim

/-- **A run is one of a memo table** of clients with one fingerprint. -/
structure Memoizes (c₀ : ClientCache ρ κ ε) (fp : String) (inputs : List (Input ρ κ ε)) : Prop where
  /-- At first, all keys are empty. -/
  begins : ∀ key, c₀.memo key = .empty
  /-- Every step is one of the memo table. -/
  simulates : ∀ l i, l ++ [i] <+: inputs → (c₀.after l).memo.Step fp c₀.disposes (c₀.after l).calls
    ((c₀.after l).occasion i).2 (c₀.after (l ++ [i])).memo ((c₀.after l).step i).2
  /-- A key is being created while a create call for it is outstanding. -/
  creates : ∀ l key g, l <+: inputs → (c₀.after l).memo key = .creating g →
    ∃ cr, (c₀.after l).creations.get? g = some cr ∧ cr.key = key ∧ cr.stage = .connecting
  /-- A call that leaves its key to a creation, an old or a new one, shares the fate of that. -/
  shares : ∀ l key request g, l ++ [.acquire key fp request] <+: inputs →
    (c₀.after (l ++ [.acquire key fp request])).memo key = .creating g →
      (c₀.after (l ++ [.acquire key fp request])).SettlesWith (c₀.after l).calls g
  /-- A creation comes to the result of its create call. -/
  results : ∀ l g outcome, l <+: inputs → (c₀.after l).outcome? g = some outcome →
    c₀.Ended l g outcome
  /-- When a clear call is answered, nothing is left of the creations that were started before it. -/
  clears : ∀ l, l <+: inputs → (c₀.after l).Clears
  /-- No client is set aside. -/
  aside : ∀ l, l <+: inputs → (c₀.after l).detached = []

/-- **A cache with one fingerprint is a memo table, unless it is late.** When all calls for a client come with one
fingerprint, a run of the empty cache is one of a memo table exactly when none of them comes for a key that is overdue,
whatever else is called and however create calls and releases end. -/
theorem memoizes_iff (disposes : Bool) {fp : String} {inputs : List (Input ρ κ ε)}
    (one : ∀ key f request, .acquire key f request ∈ inputs → f = fp) :
    Memoizes (.empty disposes) fp inputs ↔
      ∀ l key request, l ++ [.acquire key fp request] <+: inputs → ¬ (empty disposes).Overdue fp key l := by
  have orderly := orderly_after (ρ := ρ) (κ := κ) (ε := ε) disposes
  have uniform {l : List (Input ρ κ ε)} (before : l <+: inputs) := uniform_before disposes one before
  have stuck {l : List (Input ρ κ ε)} {key : String} (before : l <+: inputs) :
      (empty disposes).Overdue fp key l ↔ ((empty disposes).after l).Stuck key :=
    overdue_iff fun key f request here => one key f request (before.subset here)
  constructor
  · -- an overdue key is empty, and yet the call makes no create call
    intro memoizes l key request before overdue
    have part := (List.prefix_append l [.acquire key fp request]).trans before
    have late := (stuck part).1 overdue
    obtain ⟨g, asked⟩ := (memoizes.simulates l _ before).creates late.memo_eq
    exact late.not_create (uniform part) (orderly l).sound g asked
  · intro timely
    refine ⟨fun key => rfl, fun l i before => ?_, fun l key g before flying => ?_,
      fun l key request g before flying => ?_, fun l g outcome before ended => ?_,
      fun l before => ((uniform before).all_listed (orderly l).sound).clears (orderly l),
      fun l before => (uniform before).detached⟩
    · have part := (List.prefix_append l [i]).trans before
      have step := (uniform part).memo_step (orderly l).sound i fun key f request call => by
        subst call
        obtain rfl := one key f request (before.subset (by simp))
        exact ⟨rfl, fun late => timely l key request before ((stuck part).2 late)⟩
      rw [disposes_after] at step
      rw [after_concat]
      exact step
    · exact (uniform before).connecting (orderly l).sound flying
    · -- the call is a caller of the creation, and callers share its fate
      have move := step_move (orderly l).sound (.acquire key fp request)
      rw [← after_concat] at move
      obtain ⟨cr, under, caller⟩ := move.caller_of_creating flying
      exact settlesWith_of_caller (orderly _).sound (orderly _).attended under caller
    · exact ended_of_outcome disposes (fun key f request here => one key f request (before.subset here)) ended

/-- Calls with one fingerprint around a clear call, an eviction and a failure. -/
def steadyRun : List (Input Unit Nat Unit) :=
  [.acquire "key" "fp" (), .clear, .acquire "key" "fp" (), .created 1 (.ok 10), .resume, .resume,
    .acquire "key" "fp" (), .evictStale "other", .created 2 (.error ()), .resume]

/-- The calls of a steady run come with one fingerprint. -/
theorem memoizes_iff_steadyRun : (∀ key f request, .acquire key f request ∈ steadyRun → f = "fp") ∧
    (Memoizes (.empty true) "fp" steadyRun ↔ ∀ l key request, l ++ [.acquire key "fp" request] <+: steadyRun →
      ¬ (empty true).Overdue "fp" key l) :=
  have one : ∀ key f request, .acquire key f request ∈ steadyRun → f = "fp" := by simp [steadyRun]
  ⟨one, memoizes_iff true one⟩

/-- A create call that fails, and a call that comes before its caller has been answered. -/
def failedBefore : List (Input Unit Nat Unit) := [.acquire "key" "fp" (), .created 1 (.error ())]

/-- A create call that succeeds, the release of its client, and a call that comes before its caller has been
answered. -/
def releasedBefore : List (Input Unit Nat Unit) :=
  [.acquire "key" "fp" (), .created 1 (.ok 10), .evictStale "other"]

/-- **Late calls find their key empty and make no create call.** -/
theorem not_memoizes_late : ¬ Memoizes (.empty true) "fp" (failedBefore ++ [.acquire "key" "fp" ()]) ∧
    ¬ Memoizes (.empty true) "fp" (releasedBefore ++ [.acquire "key" "fp" ()]) := by
  refine ⟨fun memoizes => ?_, fun memoizes => ?_⟩
  · obtain ⟨g, asked⟩ := (memoizes.simulates failedBefore _ (List.prefix_refl _)).creates rfl
    have joins : (((empty true).after failedBefore).step (.acquire "key" "fp" ())).2 = [.note (.joined "key")] := rfl
    simp [joins] at asked
  · obtain ⟨g, asked⟩ := (memoizes.simulates releasedBefore _ (List.prefix_refl _)).creates rfl
    have joins : (((empty true).after releasedBefore).step (.acquire "key" "fp" ())).2 = [.note (.joined "key")] := rfl
    simp [joins] at asked

end ServiceAccess.ClientCache

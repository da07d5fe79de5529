import Mathlib.Data.List.Count
import ServiceAccess.Proofs.ClientCache.Run

/-! # Conservation of clients

A client that has been created is meant to be in one place: with its unfinished creation, stored under a
key, set aside, or handed to the dispose hook.

* **`made`**, **`held`**, **`stored`**, **`handed`**: the clients created in a run, and the places.
* **`Conserved`**: every client is in exactly one place, is handed over once at most, and is not stored
  any more when it is.
* **`Replaces`**: an input that brings a client for a key where an older one is stored. The older one is
  then handed to the hook while it is still stored.
* **`conserved_iff`**: clients are conserved throughout a run exactly when no input in it replaces. -/

namespace ServiceAccess.ClientCache

variable {ρ κ ε : Type}

/-! ## Places -/

/-- The client that a creation holds. -/
def Creation.held? (cr : Creation ρ κ ε) : Option κ :=
  match cr.stage with
  | .replacing x => some x
  | _ => none

/-- The clients held by unfinished creations. -/
def held (c : ClientCache ρ κ ε) : List κ := c.creations.values.filterMap Creation.held?

/-- The stored clients, one for each key. -/
def stored (c : ClientCache ρ κ ε) : List κ := c.entries.values.map Entry.client

/-- The client that an effect hands to the dispose hook. -/
def Effect.handed? : Effect ρ κ ε → Option κ
  | .dispose _ x => some x
  | _ => none

/-- The clients that effects hand to the dispose hook, in order. -/
def handed (es : List (Effect ρ κ ε)) : List κ := es.filterMap Effect.handed?

/-- The client that an input brings: that of a successful create call which is outstanding. -/
def madeIn (c : ClientCache ρ κ ε) : Input ρ κ ε → List κ
  | .created g (.ok x) => match c.creations.get? g with
    | some { stage := .connecting, .. } => [x]
    | _ => []
  | _ => []

variable [DecidableEq κ]

/-- The clients that are created in a run, in order. -/
def made (c : ClientCache ρ κ ε) : List (Input ρ κ ε) → List κ
  | [] => []
  | i :: l => c.madeIn i ++ made (c.step i).1 l

theorem made_append (c : ClientCache ρ κ ε) (l m : List (Input ρ κ ε)) :
    c.made (l ++ m) = c.made l ++ (c.after l).made m := by
  induction l generalizing c with
  | nil => rfl
  | cons i l ih => simp only [List.cons_append, made, ih, List.append_assoc, after, Run.after_cons]

/-- **Clients are conserved.** -/
structure Conserved (c : ClientCache ρ κ ε) (made handed : List κ) : Prop where
  /-- Every created client is in exactly one place. -/
  once : ∀ x ∈ made, (c.held ++ c.stored ++ c.detached ++ handed).count x = 1
  /-- No client is handed to the dispose hook twice. -/
  handed_once : handed.Nodup
  /-- No stored client has been handed to the dispose hook. -/
  unreleased : ∀ x ∈ c.stored, x ∉ handed

/-- **An input replaces a stored client**: it brings the client of a creation for a key under which that
of an earlier creation is stored. -/
def Replaces (c : ClientCache ρ κ ε) (i : Input ρ κ ε) : Prop :=
  ∃ g x cr e, i = .created g (.ok x) ∧ c.creations.get? g = some cr ∧ cr.stage = .connecting ∧
    c.entries.get? cr.key = some e ∧ e.generation ≤ g

/-! ## One move -/

variable {c c' : ClientCache ρ κ ε} {a : Action ρ κ ε} {es : List (Effect ρ κ ε)}

/-- The client that an action brings. -/
def brings (c : ClientCache ρ κ ε) : Action ρ κ ε → List κ
  | .created g (.ok x) => match c.creations.get? g with
    | some { stage := .connecting, .. } => [x]
    | _ => []
  | _ => []

omit [DecidableEq κ] in
/-- An outstanding create call that succeeds brings its client. -/
theorem brings_created {g : Nat} {x : κ} {cr : Creation ρ κ ε} (under : c.creations.get? g = some cr)
    (stage : cr.stage = .connecting) : c.brings (.created g (.ok x)) = [x] := by
  obtain ⟨key, fingerprint, request, _, callers⟩ := cr
  subst stage
  simp [brings, under]

omit [DecidableEq κ] in
/-- Nothing else brings a client. -/
theorem brings_other {a : Action ρ κ ε} (other : ∀ g x, a ≠ .created g (.ok x)) :
    c.brings a = [] := by
  cases a with
  | created g result => cases result with
    | ok x => exact absurd rfl (other g x)
    | error failure => rfl
  | _ => rfl

omit [DecidableEq κ] in
/-- A create call that is not outstanding brings nothing. -/
theorem brings_idle (ended : ∀ g x cr, a = .created g (.ok x) → c.creations.get? g = some cr →
    cr.stage ≠ .connecting) : c.brings a = [] := by
  unfold brings
  split
  · next g x =>
    split
    · next under => exact absurd rfl (ended g x _ rfl under)
    · rfl
  · rfl

omit [DecidableEq κ] in
/-- An input brings what its action brings. -/
theorem madeIn_eq (c : ClientCache ρ κ ε) (i : Input ρ κ ε) :
    c.madeIn i = (c.occasion i).1.brings (c.occasion i).2 := by
  cases i with
  | resume =>
    simp only [madeIn, occasion]
    cases c.jobs with
    | nil => rfl
    | cons job jobs => cases job <;> rfl
  | created g result => cases result <;> rfl
  | _ => rfl

omit [DecidableEq κ] in
theorem handed_append (es fs : List (Effect ρ κ ε)) : handed (es ++ fs) = handed es ++ handed fs :=
  List.filterMap_append ..

omit [DecidableEq κ] in
/-- The start of a release hands the client over, where there is a hook. -/
theorem handed_releaseEffects (hook : c.disposes = true) (x : κ) :
    handed (c.releaseEffects x) = [x] := by
  simp [handed, releaseEffects, hook, Effect.handed?]

omit [DecidableEq κ] in
/-- A sweep hands all its clients over, where there is a hook. -/
theorem handed_sweepEffects (hook : c.disposes = true) (clients : List κ) :
    handed (c.sweepEffects clients) = clients := by
  simp only [handed, sweepEffects, if_pos hook, List.filterMap_map]
  generalize c.releases = n
  induction clients generalizing n with
  | nil => rfl
  | cons x rest ih => simp [List.zipIdx_cons, Effect.handed?, ih]

omit [DecidableEq κ] in
/-- Answers hand nothing over. -/
theorem handed_callers (callers : List Nat) (o : Except ε (Answer κ)) :
    handed (callers.map fun call => (.settled call o : Effect ρ κ ε)) = [] := by
  rw [handed, List.filterMap_map]
  exact List.filterMap_eq_nil_iff.2 fun _ _ => rfl

omit [DecidableEq κ] in
/-- A sweep divides the stored clients into those that stay and those that go. -/
theorem stored_filter_perm (t : Table String (Entry κ)) (p : String → Entry κ → Bool) :
    ((t.filter fun k e => !p k e).values.map Entry.client
      ++ (t.filter p).values.map Entry.client).Perm (t.values.map Entry.client) := by
  simp only [Table.values, Table.entries_filter, ← List.map_append]
  refine ((List.perm_append_comm.trans ?_).map _).map _
  exact List.filter_append_perm (fun e : String × Entry κ => p e.1 e.2) t.entries

/-- **Where the clients go in one move.** What is stored, set aside or handed over after it was stored or
set aside before, or is brought by the move; unless that replaces a stored client. -/
theorem Move.places (m : Move c a c' es) (hook : c.disposes = true)
    (calm : ∀ g cr x, c.creations.get? g = some cr → cr.stage ≠ .replacing x)
    (apart : ∀ g x cr e, a = .created g (.ok x) → c.creations.get? g = some cr →
      cr.stage = .connecting → c.entries.get? cr.key = some e → g < e.generation)
    (fresh : ∀ x ∈ c.brings a, x ∉ c.detached) :
    (c'.stored ++ c'.detached ++ handed es).Perm (c.stored ++ c.detached ++ c.brings a) := by
  -- a move that leaves the three places alone
  have still : ∀ b, (∀ g x, b ≠ .created g (.ok x)) → c'.stored = c.stored →
      c'.detached = c.detached → handed es = [] →
      (c'.stored ++ c'.detached ++ handed es).Perm (c.stored ++ c.detached ++ c.brings b) := by
    intro b other stored detached none
    rw [stored, detached, none, brings_other other]
  cases m with
  -- the new client takes a free place
  | @stored g x cr under stage absent =>
    have split := (Table.values_insert_perm absent ⟨x, cr.fingerprint, g⟩).map Entry.client
    rw [brings_created under stage]
    refine List.Perm.trans ?_ (List.perm_append_singleton x _).symm
    rw [show handed ([] : List (Effect ρ κ ε)) = [] from rfl, List.append_nil]
    exact split.append_right c.detached
  | superseded under stage present older =>
    rw [brings_created under stage] at fresh ⊢
    simp only [if_neg (fresh _ (List.mem_singleton_self _)), ← List.append_assoc]
    exact List.Perm.of_eq (List.append_nil _)
  -- the two moves of a replacement do not happen
  | replacing under stage present newer =>
    exact absurd (apart _ _ _ _ rfl under stage present) (Nat.not_lt.2 newer)
  | replaced _ under stage => exact absurd stage (calm _ _ _ under)
  -- from here on clients go from their places to the hook
  | @restarted key fp request e present stale _ =>
    have split := (Table.values_erase_perm present).map Entry.client
    have gone : handed (.note (.evicted key) :: c.releaseEffects e.client) = [e.client] :=
      handed_releaseEffects hook e.client
    rw [brings_other (by simp), gone, List.append_nil]
    exact (List.perm_append_singleton e.client _).trans (split.symm.append_right c.detached)
  | @evicted fp clients swept =>
    have split := stored_filter_perm c.entries fun _ e => e.fingerprint ≠ fp
    rw [brings_other (by simp), handed_sweepEffects hook, swept, List.append_nil, List.append_nil]
    simp only [decide_not, Bool.not_not] at split ⊢
    refine List.Perm.trans ?_ (split.append_right c.detached)
    rw [List.append_assoc]
    exact List.perm_append_comm.append_left _
  | @swept call w clients waits swept =>
    have split := stored_filter_perm c.entries fun _ e => e.generation ≤ w.horizon
    have gone : handed ((if clients.isEmpty then [] else [.note (.released clients.length)])
        ++ c.sweepEffects clients) = clients := by
      rw [handed_append, handed_sweepEffects hook]
      split <;> rfl
    rw [brings_other (by simp), gone, swept, List.append_nil, List.append_nil]
    refine List.Perm.trans ?_ (split.append_right c.detached)
    rw [List.append_assoc]
    exact List.perm_append_comm.append_left _
  | answered => exact still _ (by simp) rfl rfl (handed_callers ..)
  | idle nothing =>
    have none : c.brings a = [] := by
      refine brings_idle ?_
      rintro g x cr rfl under
      exact nothing cr under
    rw [none]
    exact List.Perm.refl _
  | _ => exact still _ (by simp) rfl rfl rfl

/-! ## Runs without replacement -/

/-- Without a replacement no creation begins to hold a client. -/
theorem Move.calm (m : Move c a c' es)
    (calm : ∀ g cr x, c.creations.get? g = some cr → cr.stage ≠ .replacing x)
    (apart : ∀ g x cr e, a = .created g (.ok x) → c.creations.get? g = some cr →
      cr.stage = .connecting → c.entries.get? cr.key = some e → g < e.generation) :
    ∀ g cr x, c'.creations.get? g = some cr → cr.stage ≠ .replacing x := by
  intro g cr' x under' stage
  rcases m.creation_cases under' with ⟨cr, under, -, next⟩ | ⟨-, -, start, -⟩
  · rw [stage] at next
    -- it has held the client before, or its create call has returned it to a cache with another client
    generalize before : cr.stage = was at next
    cases next with
    | stays => exact calm g cr x under before
    | replaces returned =>
      subst returned
      cases m with
      | replacing under₀ stage₀ present newer =>
        exact absurd (apart _ _ _ _ rfl under₀ stage₀ present) (Nat.not_lt.2 newer)
      | stored | superseded =>
        obtain rfl := Option.some.inj ((Table.get?_insert_self ..).symm.trans under')
        cases stage
      | idle nothing => exact nothing cr under before
  · simp [stage] at start

/-- **The books of a cache**: every client created so far is accounted for in its place. -/
structure Accounted (c : ClientCache ρ κ ε) (made handed : List κ) : Prop where
  /-- There is a dispose hook. -/
  hook : c.disposes = true
  /-- No creation holds a client. -/
  calm : ∀ g cr x, c.creations.get? g = some cr → cr.stage ≠ .replacing x
  /-- The places hold the clients, each as often as it was created. -/
  places : (c.stored ++ c.detached ++ handed).Perm made

omit [DecidableEq κ] in
/-- A replacement-free cache holds no client in a creation. -/
theorem held_eq_nil (calm : ∀ g cr x, c.creations.get? g = some cr → cr.stage ≠ .replacing x) :
    c.held = [] := by
  refine List.filterMap_eq_nil_iff.2 fun cr here => ?_
  obtain ⟨g, under⟩ := Table.mem_values_iff.1 here
  unfold Creation.held?
  split
  · next x stage => exact absurd stage (calm g cr x under)
  · rfl

/-- Books that are in order conserve distinct clients. -/
theorem Accounted.conserved {made handed : List κ} (h : c.Accounted made handed)
    (distinct : made.Nodup) : c.Conserved made handed := by
  -- as the places hold distinct clients, they have none in common
  have apart : (c.stored ++ c.detached ++ handed).Nodup := h.places.nodup_iff.2 distinct
  refine ⟨fun x here => ?_, (List.nodup_append.1 apart).2.1, fun x here gone => ?_⟩
  · rw [held_eq_nil h.calm, List.nil_append, h.places.count_eq]
    exact List.count_eq_one_of_mem distinct here
  · have kept : x ∈ c.stored ++ c.detached := List.mem_append_left _ here
    exact (List.nodup_append.1 apart).2.2 x kept x gone rfl

/-- A run without replacement keeps the books in order. -/
theorem accounted_after {inputs : List (Input ρ κ ε)}
    (distinct : ((empty true : ClientCache ρ κ ε).made inputs).Nodup)
    (apart : ∀ l i, l ++ [i] <+: inputs → ¬ ((empty true).after l).Replaces i) :
    ((empty true).after inputs).Accounted ((empty true).made inputs)
      (handed ((empty true).asked inputs)) := by
  induction inputs using List.reverseRecOn with
  | nil => exact ⟨rfl, by simp [empty], List.Perm.refl _⟩
  | append_singleton l i ih =>
    rw [made_append] at distinct ⊢
    simp only [made, List.append_nil] at distinct ⊢
    obtain ⟨hook, calm, places⟩ := ih (List.nodup_append.1 distinct).1
      fun l' i' before => apart l' i' (before.trans (List.prefix_append ..))
    obtain ⟨jobs, same⟩ := ((empty true).after l).occasion_fst i
    have move := step_move (sound_after true l) i
    have apart_here : ∀ g x cr e, (((empty true).after l).occasion i).2 = .created g (.ok x) →
        ((empty true).after l).creations.get? g = some cr → cr.stage = .connecting →
        ((empty true).after l).entries.get? cr.key = some e → g < e.generation := by
      intro g x cr e action under stage present
      obtain rfl : i = .created g (.ok x) := eq_of_occasion action rfl
      exact Nat.lt_of_not_le fun newer =>
        apart l _ (List.prefix_refl _) ⟨g, x, cr, e, rfl, under, stage, present, newer⟩
    rw [madeIn_eq] at distinct ⊢
    rw [after_concat, asked_concat, handed_append]
    rw [same] at move distinct ⊢
    -- a client that comes in is none of those set aside, as all are distinct
    have fresh : ∀ x ∈ brings { (empty true).after l with jobs := jobs }
        (((empty true).after l).occasion i).2, x ∉ ((empty true).after l).detached := by
      intro x here aside
      have earlier := places.subset (List.mem_append_left _ (List.mem_append_right _ aside))
      exact (List.nodup_append.1 distinct).2.2 x earlier x here rfl
    refine ⟨move.disposes.trans hook, move.calm calm apart_here, ?_⟩
    have moved := move.places hook calm apart_here fresh
    -- count each client in its places before and after
    refine List.perm_iff_count.2 fun x => ?_
    have before := places.count_eq x
    have step := moved.count_eq x
    simp only [List.count_append] at before step ⊢
    have same_places : ∀ c : ClientCache ρ κ ε, stored { c with jobs := jobs } = c.stored :=
      fun _ => rfl
    rw [same_places] at step
    omega

/-- A replaced client is handed to the dispose hook while it is still stored. -/
theorem Replaces.released {i : Input ρ κ ε} (h : c.Replaces i) (hook : c.disposes = true) :
    ∃ x ∈ (c.step i).1.stored, x ∈ handed (c.step i).2 := by
  obtain ⟨g, x, cr, e, rfl, under, stage, present, newer⟩ := h
  have replaced : c.step (.created g (.ok x))
      = (c.enter g (.replacing x)).release (.creation g) e.client := by
    obtain ⟨key, fingerprint, request, _, callers⟩ := cr
    subst stage
    simp only [step, settleCreation, under, settle, present, if_neg (Nat.not_lt.2 newer)]
  rw [replaced, enter_eq under, release_eq]
  refine ⟨e.client, ?_, ?_⟩
  · exact List.mem_map.2 ⟨e, Table.mem_values_iff.2 ⟨cr.key, present⟩, rfl⟩
  · have gone : handed (c.releaseEffects e.client : List (Effect ρ κ ε)) = [e.client] :=
      handed_releaseEffects hook e.client
    exact gone.symm ▸ List.mem_singleton_self e.client

/-- Every run keeps the need for a release. -/
theorem disposes_after (disposes : Bool) (inputs : List (Input ρ κ ε)) :
    ((empty disposes : ClientCache ρ κ ε).after inputs).disposes = disposes :=
  after_keeps (P := fun c => c.disposes = disposes) (fun _ _ h => h)
    (fun _ _ _ _ _ m h => m.disposes.trans h) (sound_empty disposes) rfl inputs

/-- **Conservation, exactly.** When the create calls of a run bring distinct clients, all of them are
conserved at every point of it exactly when no input of the run replaces a stored client. -/
theorem conserved_iff (inputs : List (Input ρ κ ε))
    (distinct : ((empty true : ClientCache ρ κ ε).made inputs).Nodup) :
    (∀ l, l <+: inputs → ((empty true).after l).Conserved ((empty true).made l)
        (handed ((empty true).asked l))) ↔
      ∀ l i, l ++ [i] <+: inputs → ¬ ((empty true).after l).Replaces i := by
  constructor
  · intro conserved l i before replaces
    -- the replaced client is stored and handed over at once
    obtain ⟨x, kept, gone⟩ := replaces.released (disposes_after true l)
    refine (conserved (l ++ [i]) before).unreleased x ?_ ?_
    · rwa [after_concat]
    · rw [asked_concat, handed_append]
      exact List.mem_append_right _ gone
  · rintro apart l ⟨rest, rfl⟩
    rw [made_append] at distinct
    have distinct_before := (List.nodup_append.1 distinct).1
    refine (accounted_after distinct_before fun l' i before => ?_).conserved distinct_before
    exact apart l' i (before.trans (List.prefix_append ..))

/-- The create calls of two creations for one key end in the order of their start; then the release of the
first client fails. -/
def slowRotation : List (Input Unit Nat Unit) :=
  [.acquire "key" "old" (), .acquire "key" "new" (), .created 1 (.ok 10), .resume, .created 2 (.ok 20),
    .released 0 (.error ())]

/-- The clients of the first four inputs of a slow rotation are distinct. -/
theorem conserved_iff_slowRotation :
    ((empty true).made (slowRotation.take 4)).Nodup ∧
      ((∀ l, l <+: slowRotation.take 4 → ((empty true).after l).Conserved ((empty true).made l)
          (handed ((empty true).asked l))) ↔
        ∀ l i, l ++ [i] <+: slowRotation.take 4 → ¬ ((empty true).after l).Replaces i) :=
  ⟨by decide, conserved_iff _ (by decide)⟩

/-- Two distinct clients are not conserved by a slow rotation: while the first is being released it is
still stored, and when its release fails the second one is in no place at all. -/
theorem not_conserved_slowRotation :
    ((empty true).made slowRotation).Nodup ∧
      ¬ ((empty true).after (slowRotation.take 5)).Conserved
        ((empty true).made (slowRotation.take 5)) (handed ((empty true).asked (slowRotation.take 5))) ∧
      ¬ ((empty true).after slowRotation).Conserved
        ((empty true).made slowRotation) (handed ((empty true).asked slowRotation)) := by
  refine ⟨by decide, fun conserved => ?_, fun conserved => ?_⟩
  · exact conserved.unreleased 10 (by decide) (by decide)
  · exact absurd (conserved.once 20 (by decide)) (by decide)

end ServiceAccess.ClientCache

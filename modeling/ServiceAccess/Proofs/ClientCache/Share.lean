import ServiceAccess.Proofs.ClientCache.Calls
import ServiceAccess.Proofs.ClientCache.Conservation

/-! # The share of a key in a run

A run numbers its creations, releases and calls throughout, whatever key they are for. The share of a key
says which of them, and which clients, belong to it.

* **`Share`**: numbers and clients of a key.
* **`Share.Fits`**: a cache agrees with a share: what is under way, stored or held for the key bears the
  numbers of the share, and what is there for other keys does not.
* **`Share.Covers`**: a share is right about the numbers and clients that an action brings. By `Move.fits`,
  a cache then goes on agreeing with it.
* **`share`**: the share of a key in a run, where every number is judged by the step that gives it out.
  `fits_after` says that the cache agrees with it throughout the run, if that has no `clear` and creates no
  client twice. -/

namespace ServiceAccess.ClientCache

variable {ρ κ ε : Type}

/-! ## Shares -/

/-- **What of a run belongs to one key.** -/
structure Share (κ : Type) where
  /-- The key. -/
  key : String
  /-- The creations for the key. -/
  creation : Nat → Bool
  /-- The releases of the clients of the key. -/
  release : Nat → Bool
  /-- The calls that want a client for the key. -/
  acquire : Nat → Bool
  /-- The calls that sweep out clients built with other credentials, whatever their key. -/
  evict : Nat → Bool
  /-- The clients of the key. -/
  client : κ → Bool

/-- The calls that concern the key. -/
def Share.call (s : Share κ) (n : Nat) : Bool := s.acquire n || s.evict n

/-- An action looks for a client for a key. -/
def Action.acquires (key : String) : Action ρ κ ε → Bool
  | .acquire k _ _ => k = key
  | _ => false

/-- An action sweeps out clients built with other credentials. -/
def Action.evicts : Action ρ κ ε → Bool
  | .evictStale _ => true
  | _ => false

/-- The clients that are swept out when those built with other credentials are to go. -/
def stale (c : ClientCache ρ κ ε) (fp : String) : List κ :=
  c.detached ++ (c.entries.filter fun _ e => e.fingerprint ≠ fp).values.map Entry.client

/-- Whether a release that an action starts is one for a key: it is started by a call for the key, or by a
creation for the key, or it is that of a client of the key that is swept out. -/
def frees (key : String) (creation : Nat → Bool) (client : κ → Bool) (c : ClientCache ρ κ ε) :
    Action ρ κ ε → Nat → Bool
  | .acquire k _ _, _ => k = key
  | .created g _, _ => creation g
  | .evictStale fp, r => ((c.stale fp)[r - c.releases]?).any client
  | _, _ => false

/-! ## Agreement -/

/-- **A cache agrees with a share.** -/
structure Share.Fits (s : Share κ) (c : ClientCache ρ κ ε) : Prop where
  /-- Creations for the key are those of the share. -/
  creation : ∀ g cr, c.creations.get? g = some cr → (s.creation g = true ↔ cr.key = s.key)
  /-- The stored client of the key comes from a creation of the share. -/
  entry : ∀ e, c.entries.get? s.key = some e → s.creation e.generation = true
  /-- A release that a creation waits for belongs to the key of the creation. -/
  owner : ∀ r g, c.owners.get? r = some (.creation g) → s.release r = s.creation g
  /-- The clients of the key are stored under the key. -/
  stored : ∀ k e, c.entries.get? k = some e → (s.client e.client = true ↔ k = s.key)
  /-- The clients of the key are held by creations for the key. -/
  held : ∀ g cr x, c.creations.get? g = some cr → cr.stage = .replacing x →
    (s.client x = true ↔ cr.key = s.key)
  /-- Calls that want a client for the key wait for creations for the key. -/
  caller : ∀ g cr n, c.creations.get? g = some cr → n ∈ cr.callers →
    (s.acquire n = true ↔ cr.key = s.key)
  /-- Calls that want a client do not sweep. -/
  unswept : ∀ n, s.acquire n = true → c.sweeps.get? n = none
  /-- No call waits to sweep. -/
  unwaiting : c.waiting = ∅

/-- **A share is right about what an action brings.** -/
structure Share.Covers (s : Share κ) (c : ClientCache ρ κ ε) (a : Action ρ κ ε)
    (c' : ClientCache ρ κ ε) : Prop where
  /-- About new creations. -/
  creation : ∀ g, c.generation + 1 ≤ g ∧ g < c'.generation + 1 → s.creation g = a.acquires s.key
  /-- About new releases. -/
  release : ∀ r, c.releases ≤ r ∧ r < c'.releases → s.release r = c.frees s.key s.creation s.client a r
  /-- About a new call for a client. -/
  acquire : ∀ n, c.calls ≤ n ∧ n < c'.calls → s.acquire n = a.acquires s.key
  /-- About a new call for a sweep. -/
  evict : ∀ n, c.calls ≤ n ∧ n < c'.calls → s.evict n = a.evicts
  /-- About a new client. -/
  client : ∀ g x cr, a = .created g (.ok x) → c.creations.get? g = some cr → cr.stage = .connecting →
    (s.client x = true ↔ cr.key = s.key)

variable {s : Share κ} {c c' : ClientCache ρ κ ε} {a : Action ρ κ ε} {es : List (Effect ρ κ ε)}

namespace Share

/-- The empty cache agrees with every share. -/
theorem fits_empty (s : Share κ) (disposes : Bool) : s.Fits (.empty disposes : ClientCache ρ κ ε) := by
  constructor <;> simp [empty]

section
variable (h : s.Fits c)
include h

/-- Agreement does not depend on the continuations. -/
theorem Fits.withJobs (jobs : List Job) : s.Fits { c with jobs := jobs } :=
  ⟨h.creation, h.entry, h.owner, h.stored, h.held, h.caller, h.unswept, h.unwaiting⟩

/-- Taking a continuation off the list to run it keeps the agreement. -/
theorem Fits.occasion (i : Input ρ κ ε) : s.Fits (c.occasion i).1 := by
  obtain ⟨jobs, same⟩ := c.occasion_fst i
  rw [same]
  exact h.withJobs jobs

variable {key : String} {g : Nat} {cr : Creation ρ κ ε} {e : Entry κ}

/-- A creation that is not in the share is for another key. -/
theorem Fits.key_ne (under : c.creations.get? g = some cr) (other : s.creation g = false) :
    cr.key ≠ s.key :=
  fun ours => Bool.eq_false_iff.1 other ((h.creation g cr under).2 ours)

/-- A flight is in the share exactly when it is that of the key. -/
theorem Fits.flight_iff (sound : c.Sound) {f : Flight} (flight : c.flights.get? key = some f) :
    s.creation f.generation = true ↔ key = s.key := by
  obtain ⟨cr, under, rfl, -⟩ := sound.flight_creation key f flight
  exact h.creation _ cr under

/-- A client stored under another key is not in the share. -/
theorem Fits.client_eq_false (stored : c.entries.get? key = some e) (other : key ≠ s.key) :
    s.client e.client = false :=
  Bool.eq_false_iff.2 fun ours => other ((h.stored key e stored).1 ours)

end

section
variable {key fp : String} {request : ρ} (covers : s.Covers c (.acquire key fp request) c')
include covers

/-- A call that wants a client is in the share exactly when it wants one for the key. -/
theorem Covers.acquire_eq (made : c'.calls = c.calls + 1) : s.acquire c.calls = decide (key = s.key) :=
  covers.acquire _ (by omega)

/-- A creation that starts is in the share exactly when it is for the key. -/
theorem Covers.creation_eq (begun : c'.generation = c.generation + 1) :
    s.creation (c.generation + 1) = decide (key = s.key) :=
  covers.creation _ (by omega)

/-- The release before a creation is in the share exactly when that is for the key. -/
theorem Covers.release_eq (freed : c'.releases = c.releases + 1) :
    s.release c.releases = decide (key = s.key) :=
  covers.release _ (by omega)

end

/-- The release of a client that is replaced is in the share exactly when the creation is. -/
theorem Covers.replaced_eq {g : Nat} {result : Except ε κ} (covers : s.Covers c (.created g result) c')
    (freed : c'.releases = c.releases + 1) : s.release c.releases = s.creation g :=
  covers.release _ (by omega)

end Share

variable [DecidableEq κ]

section
variable (m : Move c a c' es) (sound : c.Sound) (h : s.Fits c) (covers : s.Covers c a c')
include m sound h covers

/-- A creation that starts is for the key of the call that wants it. -/
theorem Move.fits_creation {g : Nat} {cr' : Creation ρ κ ε} (under : c'.creations.get? g = some cr') :
    s.creation g = true ↔ cr'.key = s.key := by
  rcases m.creation_cases under with ⟨cr, before, later, -⟩ | ⟨rfl, call, -⟩
  · rw [later.key]
    exact h.creation g cr before
  · subst call
    rw [covers.creation _ ⟨Nat.le_refl _, Nat.lt_succ_of_le (m.creation_le sound under)⟩]
    exact decide_eq_true_iff

/-- A release is started for a creation by the call that wants it, or to replace a client of its key. -/
theorem Move.fits_owner {r g : Nat} (owned : c'.owners.get? r = some (.creation g)) : s.release r = s.creation g := by
  rcases m.owner_origin sound owned with ⟨before, -⟩ | ⟨-, new, begins⟩
  · exact h.owner r g before
  · obtain ⟨rfl, unowned, -⟩ := begins g rfl
    cases m with
    | restarted =>
      rw [Table.get?_insert_self] at owned
      obtain rfl := Owner.creation.inj (Option.some.inj owned)
      rw [covers.release_eq rfl, covers.creation_eq rfl]
    | replacing =>
      rw [Table.get?_insert_self] at owned
      obtain rfl := Owner.creation.inj (Option.some.inj owned)
      exact covers.replaced_eq rfl
    | evicted | swept =>
      rw [get?_sweepOwners] at owned
      split at owned
      · cases owned
      · exact absurd owned (unowned _)
    | _ => exact absurd new (Nat.lt_irrefl _)

/-- A client is stored for the creation that has made it, at the end of its create call or of a release behind that. -/
theorem Move.fits_stored {k : String} {e : Entry κ} (stored : c'.entries.get? k = some e) :
    s.client e.client = true ↔ k = s.key := by
  rcases m.entry_cases stored with before | ⟨cr, under, flying, rfl, -, call | replacing, ended⟩
  · exact h.stored k e before
  · have stage : cr.stage = .connecting := by
      cases m.creation_fate sound under with
      | stays under' _ same =>
        obtain rfl := Option.some.inj (ended.symm.trans under')
        exact absurd same.symm (flying _)
      | returns _ stage => exact stage
      | connects ends | finishes ends => cases call.symm.trans ends
      | answered answer => cases call.symm.trans answer
    exact covers.client _ _ cr call under stage
  · exact h.held _ cr _ under replacing

omit sound in
/-- A creation holds a client from the end of its create call. -/
theorem Move.fits_held {g : Nat} {cr' : Creation ρ κ ε} {x : κ} (under : c'.creations.get? g = some cr')
    (stage : cr'.stage = .replacing x) : s.client x = true ↔ cr'.key = s.key := by
  rcases m.creation_cases under with ⟨cr, before, later, next⟩ | ⟨-, -, start, -⟩
  · rw [later.key]
    rw [stage] at next
    generalize was : cr.stage = held at next
    cases next with
    | stays => exact h.held g cr x before was
    | replaces returned => exact covers.client g x cr returned before was
  · simp [stage] at start

/-- The only new caller is the call that is being made, and it calls a creation for its key. -/
theorem Move.fits_caller {g n : Nat} {cr' : Creation ρ κ ε} (under : c'.creations.get? g = some cr')
    (caller : n ∈ cr'.callers) : s.acquire n = true ↔ cr'.key = s.key := by
  rcases m.caller_origin under caller with ⟨cr, before, old⟩ | ⟨rfl, made, key, fp, request, rfl, flight⟩
  · rcases m.continues sound before with ⟨cr₁, under₁, later⟩ | ⟨gone, -⟩
    · obtain rfl := Option.some.inj (under₁.symm.trans under)
      rw [later.key]
      exact h.caller g cr n before old
    · cases gone.symm.trans under
  · obtain ⟨cr₁, under₁, rfl, -⟩ := (m.sound sound).flight_creation key _ flight
    obtain rfl := Option.some.inj (under₁.symm.trans under)
    rw [covers.acquire_eq made]
    exact decide_eq_true_iff

omit sound in
/-- Who begins to sweep is no call that wants a client. -/
theorem Move.fits_unswept {n : Nat} (ours : s.acquire n = true) : c'.sweeps.get? n = none := by
  refine Option.eq_none_iff_forall_ne_some.2 fun s' sweeping => ?_
  rcases m.sweep_origin sweeping with ⟨s₀, before⟩ | ⟨rfl, made, fp, rfl⟩ | ⟨⟨w, waits⟩, -⟩
  · simp [h.unswept n ours] at before
  · rw [covers.acquire c.calls ⟨Nat.le_refl _, made ▸ Nat.lt_succ_self _⟩] at ours
    cases ours
  · simp [h.unwaiting] at waits

/-- **A move keeps the agreement with a share that is right about it.** -/
theorem Move.fits (unclear : a ≠ .clear) : s.Fits c' where
  creation _ _ under := m.fits_creation sound h covers under
  entry e stored := by
    -- what is stored comes from a creation for the key
    rcases m.entry_cases stored with before | ⟨cr, under, -, key, -⟩
    · exact h.entry e before
    · exact (h.creation _ cr under).2 key
  owner _ _ owned := m.fits_owner sound h covers owned
  stored _ _ stored := m.fits_stored sound h covers stored
  held _ _ _ under stage := m.fits_held h covers under stage
  caller _ _ _ under caller := m.fits_caller sound h covers under caller
  unswept _ ours := m.fits_unswept h covers ours
  unwaiting := by
    cases m with
    | cleared => exact absurd rfl unclear
    | answered =>
      rw [h.unwaiting]
      rfl
    | swept waits => simp [h.unwaiting] at waits
    | _ => exact h.unwaiting

end

/-! ## The share of a run -/

/-- An input ends the create call of a creation for a key. -/
def endsFor (c : ClientCache ρ κ ε) (key : String) : Input ρ κ ε → Bool
  | .created g _ => (c.creations.get? g).any fun cr => cr.key = key
  | _ => false

/-- The clients that are created for a key in a run, in order. -/
def madeFor (key : String) (c : ClientCache ρ κ ε) : List (Input ρ κ ε) → List κ
  | [] => []
  | i :: l => (if c.endsFor key i then c.madeIn i else []) ++ madeFor key (c.step i).1 l

/-- **The share of a key in a run.** Every number is judged by the step that gives it out. -/
def share (disposes : Bool) (key : String) (inputs : List (Input ρ κ ε)) : Share κ :=
  -- the numbers of one kind, by the counter that they are taken from
  let tagged next tag := Run.tagged (σ := ClientCache ρ κ ε) step next
    (fun c i n => tag (c.occasion i).1 (c.occasion i).2 n) (.empty disposes) inputs
  let creation := tagged (fun c => c.generation + 1) fun _ a _ => a.acquires key
  let client x := decide (x ∈ (empty disposes).madeFor key inputs)
  { key, creation, client
    release := tagged releases (frees key creation client)
    acquire := tagged calls fun _ a _ => a.acquires key
    evict := tagged calls fun _ a _ => a.evicts }

/-- Releases are counted upwards in a run. -/
theorem releases_le_after (sound : c.Sound) (inputs : List (Input ρ κ ε)) :
    c.releases ≤ (c.after inputs).releases :=
  after_keeps (P := fun c' => c.releases ≤ c'.releases) (fun _ _ h => h)
    (fun _ _ _ _ _ m h => Nat.le_trans h m.releases_le) sound (Nat.le_refl _) inputs

theorem madeFor_append (key : String) (c : ClientCache ρ κ ε) (l m : List (Input ρ κ ε)) :
    c.madeFor key (l ++ m) = c.madeFor key l ++ (c.after l).madeFor key m := by
  induction l generalizing c with
  | nil => rfl
  | cons i l ih => simp only [List.cons_append, madeFor, ih, List.append_assoc, after, Run.after_cons]

/-- The clients that are created for a key are created. -/
theorem madeFor_subset (key : String) (c : ClientCache ρ κ ε) (l : List (Input ρ κ ε)) :
    c.madeFor key l ⊆ c.made l := by
  induction l generalizing c with
  | nil => exact List.Subset.refl _
  | cons i l ih =>
    rw [madeFor, made]
    refine List.append_subset.2 ⟨fun x here => ?_, fun x here => List.mem_append_right _ (ih _ here)⟩
    split at here
    · exact List.mem_append_left _ here
    · simp at here

/-- A client that is not created twice is created for one key only. -/
theorem mem_madeFor_iff {l m : List (Input ρ κ ε)} {g : Nat} {x : κ} {cr : Creation ρ κ ε}
    (distinct : (c.made (l ++ .created g (.ok x) :: m)).Nodup)
    (under : (c.after l).creations.get? g = some cr) (stage : cr.stage = .connecting) (key : String) :
    x ∈ c.madeFor key (l ++ .created g (.ok x) :: m) ↔ cr.key = key := by
  have now : (c.after l).madeIn (.created g (.ok x)) = [x] := by
    rw [madeIn_eq]
    exact brings_created under stage
  rw [made_append, made, now, List.nodup_append, List.nodup_append] at distinct
  obtain ⟨-, ⟨-, -, after⟩, before⟩ := distinct
  have concerns : (c.after l).endsFor key (.created g (.ok x)) = decide (cr.key = key) := by
    simp [endsFor, under]
  rw [madeFor_append, madeFor, now, concerns, List.mem_append, List.mem_append]
  constructor
  · rintro (here | here | here)
    · exact absurd rfl (before x (madeFor_subset key _ _ here) x (by simp))
    · by_contra other
      simp [other] at here
    · exact absurd rfl (after x (by simp) x (madeFor_subset key _ _ here))
  · intro same
    exact .inr (.inl (by simp [same]))

/-- **A share is right about every step of its run**, where no client is created twice. -/
theorem share_covers {disposes : Bool} (key : String) {inputs l : List (Input ρ κ ε)} {i : Input ρ κ ε}
    (distinct : ((empty disposes).made inputs).Nodup) (part : l ++ [i] <+: inputs) :
    (share disposes key inputs).Covers (((empty disposes).after l).occasion i).1
      (((empty disposes).after l).occasion i).2 (((empty disposes).after l).step i).1 := by
  obtain ⟨m, rfl⟩ := part
  rw [List.append_assoc, List.singleton_append] at distinct ⊢
  -- counters rise, and the list of continuations does not matter to them
  have rises {next : ClientCache ρ κ ε → Nat} (le : ∀ c, c.Sound → ∀ l, next c ≤ next (c.after l))
      (l m : List (Input ρ κ ε)) :
      next ((empty disposes).after l) ≤ next ((empty disposes).after (l ++ m)) := by
    rw [after_append]
    exact le _ (sound_after disposes l) m
  obtain ⟨jobs, same⟩ := ((empty disposes).after l).occasion_fst i
  constructor
  · intro g new
    rw [same] at new
    exact Run.tagged_append_cons (fun c : ClientCache ρ κ ε => c.generation + 1)
      (rises fun c sound l => Nat.succ_le_succ (generation_le_after sound l)) new
  · intro r new
    rw [same] at new
    exact Run.tagged_append_cons releases (rises fun c sound l => releases_le_after sound l) new
  · intro n new
    rw [same] at new
    exact Run.tagged_append_cons calls (rises fun c sound l => calls_le_after sound l) new
  · intro n new
    rw [same] at new
    exact Run.tagged_append_cons calls (rises fun c sound l => calls_le_after sound l) new
  · intro g x cr action under stage
    rw [same] at under
    obtain rfl : i = .created g (.ok x) := eq_of_occasion action rfl
    exact decide_eq_true_iff.trans (mem_madeFor_iff distinct under stage key)

omit [DecidableEq κ] in
/-- In a run without `clear`, no action begins to wait for the flights. -/
theorem ne_clear_of_occasion {inputs l : List (Input ρ κ ε)} {i : Input ρ κ ε} (unclear : .clear ∉ inputs)
    (part : l ++ [i] <+: inputs) : (c.occasion i).2 ≠ .clear := by
  intro action
  obtain rfl : i = .clear := eq_of_occasion action rfl
  exact unclear (part.subset (by simp))

/-- **Along a run, the cache agrees with the share of every key.** -/
theorem fits_after {disposes : Bool} (key : String) {inputs : List (Input ρ κ ε)}
    (unclear : .clear ∉ inputs) (distinct : ((empty disposes).made inputs).Nodup)
    {l : List (Input ρ κ ε)} (part : l <+: inputs) :
    (share disposes key inputs).Fits ((empty disposes).after l) := by
  induction l using List.reverseRecOn with
  | nil => exact Share.fits_empty _ disposes
  | append_singleton l i ih =>
    have sound := sound_after (ρ := ρ) (κ := κ) (ε := ε) disposes l
    have fits := (ih ((List.prefix_append ..).trans part)).occasion i
    rw [after_concat]
    exact (step_move sound i).fits (sound.occasion i) fits (share_covers key distinct part)
      (ne_clear_of_occasion unclear part)

/-- No creation has the number zero. -/
theorem share_creation_zero (disposes : Bool) (key : String) (inputs : List (Input ρ κ ε)) :
    (share disposes key inputs).creation 0 = false := by
  refine Run.tagged_of_lt (fun c : ClientCache ρ κ ε => c.generation + 1) (fun l m => ?_) (Nat.succ_pos _)
  rw [← after, ← after, after_append]
  exact Nat.succ_le_succ (generation_le_after (sound_after disposes l) m)

end ServiceAccess.ClientCache

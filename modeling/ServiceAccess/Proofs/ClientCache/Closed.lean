import ServiceAccess.ClientCache.Step
import ServiceAccess.Proofs.Table

/-! # The small operations of a client cache, written out

The steps of a cache are put together from small operations. This file writes each of them as one record
update, so that a later proof sees at once which fields it leaves alone: entering a stage (`enter_eq`),
a clear call (`clear_eq`), the release of one client (`release_eq`) and the releases of a sweep
(`sweepOut_eq`). -/

namespace ServiceAccess.ClientCache

variable {ρ κ ε : Type}

/-! ## One creation -/

/-- Revising a creation that is under way writes it back. -/
theorem revise_eq {c : ClientCache ρ κ ε} {g : Nat} {cr : Creation ρ κ ε}
    (under : c.creations.get? g = some cr) (f : Creation ρ κ ε → Creation ρ κ ε) :
    c.revise g f = { c with creations := c.creations.insert g (f cr) } := by
  rw [revise, under]

/-- Entering a stage changes the stage of the creation and nothing else. -/
theorem enter_eq {c : ClientCache ρ κ ε} {g : Nat} {cr : Creation ρ κ ε}
    (under : c.creations.get? g = some cr) (stage : Stage κ ε) :
    c.enter g stage = { c with creations := c.creations.insert g { cr with stage := stage } } :=
  revise_eq under _

/-- A creation that ends keeps its place until its callers are answered. -/
theorem finish_eq {c : ClientCache ρ κ ε} {g : Nat} {cr : Creation ρ κ ε}
    (under : c.creations.get? g = some cr) (outcome : Except ε κ) :
    c.finish g outcome = { c with
      creations := c.creations.insert g { cr with stage := .finished outcome }
      jobs := c.jobs ++ [.answer g] } := by
  rw [finish, enter_eq under, schedule]

/-! ## One clear call -/

/-- A clear call notes the flights of its moment; with no flight, it is about to sweep. -/
theorem clear_eq (c : ClientCache ρ κ ε) :
    c.clear = ({ c with
      calls := c.calls + 1
      waiting := c.waiting.insert c.calls ⟨c.generation, c.flights.values.map Flight.generation⟩
      jobs := if (c.flights.values.map Flight.generation).isEmpty
        then c.jobs ++ [.sweep c.calls] else c.jobs }, []) := by
  simp only [clear]
  by_cases none : (c.flights.values.map Flight.generation).isEmpty <;> simp [none, schedule]

/-! ## One release -/

/-- The continuations once a release has started: with a dispose hook there is nothing to run. -/
def releaseJobs (c : ClientCache ρ κ ε) : List Job :=
  if c.disposes then c.jobs else c.jobs ++ [.release c.releases]

/-- What the start of a release asks for: a call of the dispose hook, if there is one. -/
def releaseEffects (c : ClientCache ρ κ ε) (client : κ) : List (Effect ρ κ ε) :=
  if c.disposes then [.dispose c.releases client] else []

/-- A release takes the next number and notes its owner. -/
theorem release_eq (c : ClientCache ρ κ ε) (owner : Owner) (client : κ) :
    c.release owner client = ({ c with
      releases := c.releases + 1
      owners := c.owners.insert c.releases owner
      jobs := c.releaseJobs }, c.releaseEffects client) := by
  cases h : c.disposes <;> simp [release, releaseJobs, releaseEffects, schedule, h]

/-! ## The releases of a sweep -/

/-- The owners once a call has started some releases. -/
def sweepOwners (c : ClientCache ρ κ ε) (call n : Nat) : Table Nat Owner :=
  (List.range' c.releases n).foldl (fun t i => t.insert i (.sweep call)) c.owners

/-- The continuations once some releases have started. -/
def sweepJobs (c : ClientCache ρ κ ε) (n : Nat) : List Job :=
  if c.disposes then c.jobs else c.jobs ++ (List.range' c.releases n).map .release

/-- What the start of some releases asks for. -/
def sweepEffects (c : ClientCache ρ κ ε) (clients : List κ) : List (Effect ρ κ ε) :=
  if c.disposes then (clients.zipIdx c.releases).map fun e => .dispose e.2 e.1 else []

/-- The releases of a sweep take the next numbers, in the order of the clients. -/
theorem releaseEach_eq (c : ClientCache ρ κ ε) (call : Nat) (clients : List κ) :
    c.releaseEach call clients = ({ c with
      releases := c.releases + clients.length
      owners := c.sweepOwners call clients.length
      jobs := c.sweepJobs clients.length }, c.sweepEffects clients) := by
  induction clients generalizing c with
  | nil => simp [releaseEach, sweepOwners, sweepJobs, sweepEffects]
  | cons x rest ih =>
    -- the first client takes the next number, and the others those behind it
    rw [releaseEach, release_eq]
    simp only [ih, sweepOwners, sweepJobs, sweepEffects, releaseJobs, releaseEffects,
      List.length_cons, List.range'_succ, List.foldl_cons, List.map_cons, List.zipIdx_cons]
    cases c.disposes <;> simp <;> omega

/-- A call that sweeps notes its releases and starts them; with no client to release, it is over. -/
theorem sweepOut_eq (c : ClientCache ρ κ ε) (call : Nat) (answer : Answer κ) (clients : List κ) :
    c.sweepOut call answer clients = ({ c with
      releases := c.releases + clients.length
      owners := c.sweepOwners call clients.length
      sweeps := c.sweeps.insert call
        ⟨answer, (List.range' c.releases clients.length).map fun n => (n, none)⟩
      jobs := if clients.isEmpty then c.jobs ++ [.conclude call] else c.sweepJobs clients.length },
      c.sweepEffects clients) := by
  -- the numbers are counted from zero and then moved up to the next release
  have numbers : (List.range clients.length).map (fun i => (c.releases + i, none))
      = (List.range' c.releases clients.length).map
          fun n => (n, (none : Option (Except ε Unit))) := by
    rw [List.range'_eq_map_range, List.map_map]
    rfl
  rw [sweepOut, numbers]
  cases clients with
  | nil => simp [schedule, sweepOwners, sweepEffects]
  | cons x rest =>
    simp only [List.isEmpty_cons, Bool.false_eq_true, if_false, releaseEach_eq]
    rfl

private theorem get?_foldl_insert (l : List Nat) (t : Table Nat Owner) (o : Owner) (n : Nat) :
    (l.foldl (fun t i => t.insert i o) t).get? n = if n ∈ l then some o else t.get? n := by
  induction l generalizing t with
  | nil => simp
  | cons i l ih =>
    rw [List.foldl_cons, ih, Table.get?_insert]
    by_cases hi : n = i <;> by_cases hl : n ∈ l <;> simp [hi, hl]

/-- **The owners of a sweep's releases.** The new numbers belong to the call, all others are as before. -/
theorem get?_sweepOwners (c : ClientCache ρ κ ε) (call len n : Nat) :
    (c.sweepOwners call len).get? n
      = if c.releases ≤ n ∧ n < c.releases + len then some (.sweep call) else c.owners.get? n := by
  rw [sweepOwners, get?_foldl_insert]
  simp [List.mem_range'_1]

end ServiceAccess.ClientCache

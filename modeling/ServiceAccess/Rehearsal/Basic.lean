import ServiceAccess.Failure

/-! # Rehearsals

A rehearsal runs steps against scripted services. Each step runs until nothing more can happen without a
later one; a step whose result is still open then is pending, and is reported with the later step that
settles it. The steps of a parallel block all start before any of them goes on.

A `Stage` says how one kind of rehearsal starts a step, runs until it is quiet and shows what it sees;
`Stage.perform` runs a list of blocks. -/

namespace ServiceAccess.Rehearsal

/-- A step, or several that start together, each with the identifier it is reported under. -/
inductive Block (σ : Type) where
  /-- One step. -/
  | single (id : String) (step : σ)
  /-- Several steps. -/
  | parallel (steps : List (String × σ))

/-- The steps of a block. -/
def Block.steps {σ : Type} : Block σ → List (String × σ)
  | .single id step => [(id, step)]
  | .parallel steps => steps

/-- The result of a step. -/
inductive Outcome (ν : Type) where
  /-- It has ended. -/
  | ended (result : Except Failure ν)
  /-- It is still open. -/
  | pending (id : String)

/-- What is reported after a block. -/
structure Report (ν η π : Type) where
  /-- Whether the block was a parallel one. -/
  isParallel : Bool
  /-- The results of its steps. -/
  outcomes : List (Outcome ν)
  /-- The earlier steps that ended meanwhile, in the order in which they started. -/
  settled : List (String × Except Failure ν)
  /-- What happened, in order. -/
  events : List η
  /-- What can be seen afterwards. -/
  snapshot : π

/-- One kind of rehearsal, with worlds `ω`, steps `σ`, raw and shown results `ρ` and `ν`, events `η` and
snapshots `π`. -/
structure Stage (ω σ ρ ν η π : Type) where
  /-- Start a step under a number. -/
  start : ω → Nat → σ → ω
  /-- Run until nothing more can happen. -/
  settle : ω → ω
  /-- Take the results that have come in, by number. -/
  takeResults : ω → ω × List (Nat × Except Failure ρ)
  /-- Show a result. -/
  present : ω → ρ → ω × ν
  /-- Take the events. -/
  takeEvents : ω → ω × List η
  /-- See what there is to see. -/
  snapshot : ω → π

namespace Stage

variable {ω σ ρ ν η π : Type}

/-- A step that has started and not ended: its number and its identifier. -/
abbrev Open := Nat × String

/-- Start steps one after another, with numbers from a given one on. -/
def startAll (s : Stage ω σ ρ ν η π) (w : ω) (number : Nat) : List (String × σ) → ω × List Open
  | [] => (w, [])
  | (id, step) :: rest =>
    let (w, opened) := s.startAll (s.start w number step) (number + 1) rest
    (w, (number, id) :: opened)

/-- Show a result or its failure. -/
def presentResult (s : Stage ω σ ρ ν η π) (w : ω) : Except Failure ρ → ω × Except Failure ν
  | .ok r => let (w, v) := s.present w r; (w, .ok v)
  | .error failure => (w, .error failure)

/-- Sort open steps into those that have a result, with it shown, and those that have none. -/
def sortOut (s : Stage ω σ ρ ν η π) (results : List (Nat × Except Failure ρ)) (w : ω) :
    List Open → ω × List (Open × Option (Except Failure ν))
  | [] => (w, [])
  | task :: rest =>
    let (w, shown) := match results.find? fun r => r.1 = task.1 with
      | some r => let (w, v) := s.presentResult w r.2; (w, some v)
      | none => (w, none)
    let (w, others) := s.sortOut results w rest
    (w, (task, shown) :: others)

/-- The open steps without a result. -/
def stillOpen (sorted : List (Open × Option (Except Failure ν))) : List Open :=
  sorted.filterMap fun e => if e.2.isNone then some e.1 else none

/-- Run a block, given the number of its first step and the steps still open before it. -/
def runBlock (s : Stage ω σ ρ ν η π) (w : ω) (number : Nat) (waiting : List Open) (b : Block σ) :
    ω × List Open × Report ν η π :=
  let (w, opened) := s.startAll w number b.steps
  let (w, results) := s.takeResults (s.settle w)
  let (w, own) := s.sortOut results w opened
  let (w, earlier) := s.sortOut results w waiting
  let (w, events) := s.takeEvents w
  let outcomes := own.map fun e => match e.2 with
    | some result => Outcome.ended result
    | none => .pending e.1.2
  let settled := earlier.filterMap fun e => e.2.map fun result => (e.1.2, result)
  let isParallel := match b with
    | .single .. => false
    | .parallel _ => true
  (w, stillOpen earlier ++ stillOpen own, ⟨isParallel, outcomes, settled, events, s.snapshot w⟩)

/-- Run blocks, and report each of them and the identifiers of the steps that never ended. -/
def performFrom (s : Stage ω σ ρ ν η π) (w : ω) (number : Nat) (waiting : List Open) :
    List (Block σ) → List (Report ν η π) × List String
  | [] => ([], waiting.map Prod.snd)
  | b :: rest =>
    let (w, waiting, report) := s.runBlock w number waiting b
    let (reports, unsettled) := s.performFrom w (number + b.steps.length) waiting rest
    (report :: reports, unsettled)

/-- Run blocks from the beginning. -/
def perform (s : Stage ω σ ρ ν η π) (w : ω) (blocks : List (Block σ)) :
    List (Report ν η π) × List String := s.performFrom w 0 [] blocks

end Stage

/-- An upper limit on the number of reactions to a list of steps: every step starts at most a few, and
those that sweep release at most one client per earlier step. -/
def reactionLimit (steps : Nat) : Nat := 64 * (steps + 4) * (steps + 4)

end ServiceAccess.Rehearsal

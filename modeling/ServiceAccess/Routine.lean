import ServiceAccess.Logger
import ServiceAccess.Service

/-! # Routines

A `Routine α` is a program that talks to outside services and ends with an `α` or a failure. It is a tree:
every question has one continuation per answer. `Routine.attempt` goes on with the result of a routine,
whatever it is, and `Routine.bind` only after success.

A listing of unknown length is one constructor: `Routine.listing` asks for pages, each with the token of the page
before, until a page has no token. -/

namespace ServiceAccess

/-- A program that talks to outside services. -/
inductive Routine (α : Type) where
  /-- The end. -/
  | done (result : Except Failure α)
  /-- Write a log line. -/
  | note (level : Level) (message : String) (next : Routine α)
  /-- Ask a question and go on with the answer. -/
  | ask (query : Query) (next : Except Failure query.Answer → Routine α)
  /-- List the buckets that a client sees, from the page of a token on, behind those found so far. -/
  | listing (client : CloudClient) (token : Option String) (found : List String)
      (next : Except Failure (List String) → Routine α)
  /-- Take a fresh handle. -/
  | allocate (next : Handle → Routine α)
  /-- Close a cloud client. -/
  | close (client : CloudClient) (next : Routine α)

namespace Routine

variable {α β : Type}

/-- Go on with the result of a routine. -/
def attempt : Routine α → (Except Failure α → Routine β) → Routine β
  | .done result, f => f result
  | .note level message next, f => .note level message (next.attempt f)
  | .ask query next, f => .ask query fun answer => (next answer).attempt f
  | .listing client token found next, f =>
    .listing client token found fun answer => (next answer).attempt f
  | .allocate next, f => .allocate fun handle => (next handle).attempt f
  | .close client next, f => .close client (next.attempt f)

/-- Fail. -/
def fail (failure : Failure) : Routine α := .done (.error failure)

/-- Go on after success; a failure ends the routine. -/
def bind (r : Routine α) (f : α → Routine β) : Routine β :=
  r.attempt fun result => match result with
    | .ok a => f a
    | .error failure => .fail failure

instance : Monad Routine where
  pure a := .done (.ok a)
  bind := bind

/-- The routine that only has a result. -/
def ofExcept (result : Except Failure α) : Routine α := .done result

/-- Write a log line and go on. -/
def log (level : Level) (message : String) : Routine Unit := .note level message (.done (.ok ()))

/-- Ask a question. -/
def query (q : Query) : Routine q.Answer := .ask q .done

/-- Apply a function to the result of a successful routine. -/
def map (f : α → β) (r : Routine α) : Routine β := r.attempt fun result => .done (result.map f)

/-- Close a client after a routine, whatever its result. -/
def thenClose (r : Routine α) (client : CloudClient) : Routine α :=
  r.attempt fun result => .close client (.done result)

/-- A page of a listing came in: go on to the next one, or end the listing. -/
def turnPage (client : CloudClient) (found : List String)
    (next : Except Failure (List String) → Routine α) (answer : Except Failure BucketPage) :
    Routine α :=
  match answer with
  | .error failure => next (.error failure)
  | .ok page =>
    let found := found ++ page.named
    match page.next.filter fun token => !token.isEmpty with
    | some token => .listing client (some token) found next
    | none => next (.ok found)

end Routine

end ServiceAccess

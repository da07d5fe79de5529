import ServiceAccess.Proofs.Provider.Discreet
import ServiceAccess.Proofs.Resource.Repositories
import ServiceAccess.Proofs.Routine.Deeds

/-! # Logins at container registries

A handshake and a verification log an engine in, and the set-up of the local tool logs the `docker` command in. All of
them read the registry from the target and the user from the credentials, and tell a refusal by what the registry says:
by the error of the engine, or by what the command writes.

* **`Docker.Reports`**: a text that reports a refusal. **`Docker.Refuses`**: an error that is one.
* **`Docker.Destination`**: where a login goes.
* **`Docker.Fate`**: what becomes of a failed login. **`Docker.Verdict`**: what a run of the command comes to.
* **`Docker.LogsIn`**: every run of the three routines; **`Docker.logs_in`** for all accepted repositories and
  credentials. -/

namespace ServiceAccess

/-! ## Searching texts -/

namespace Text

theorem occursIn_iff {needle hay : List Char} : occursIn needle hay = true ↔ needle <:+: hay := by
  induction hay with
  | nil => simp [occursIn]
  | cons c cs ih => rw [occursIn, Bool.or_eq_true, List.isPrefixOf_iff_prefix, ih, List.infix_cons_iff]

/-- A text occurs in another one when a part of the other has the same characters, ASCII letters compared without
case. -/
theorem mentions_iff {needle hay : String} : mentions needle hay = true ↔
    ∃ part, part <:+: hay.toList ∧ part.map foldCase = needle.toList.map foldCase := by
  rw [mentions, occursIn_iff]
  constructor
  · rintro ⟨before, after, whole⟩
    obtain ⟨lead, after', split, leads, rfl⟩ := List.map_eq_append_iff.1 whole.symm
    obtain ⟨before', part, rfl, rfl, same⟩ := List.map_eq_append_iff.1 leads
    exact ⟨part, ⟨before', after', split.symm⟩, same⟩
  · rintro ⟨part, within, same⟩
    rw [← same]
    exact within.map foldCase

end Text

namespace Docker

/-! ## Refusals -/

/-- **A text that reports a refusal**: one of the phrases stands in it, in whatever case. -/
def Reports (s : String) : Prop :=
  ∃ phrase ∈ refusals, ∃ part, part <:+: s.toList ∧ part.map Text.foldCase = phrase.toList.map Text.foldCase

theorem reportsRefusal_iff {s : String} : reportsRefusal s = true ↔ Reports s := by
  simp only [reportsRefusal, List.any_eq_true, Text.mentions_iff, Reports]

instance (s : String) : Decidable (Reports s) := decidable_of_iff _ reportsRefusal_iff

/-- The status code of an error, if it has one. -/
def statusCode? : Failure → Option Json
  | .service fault => fault.statusCode
  | _ => none

/-- **An error that is a refusal**: an error object with such a status code, or whose message reports one. -/
def Refuses (e : Failure) : Prop :=
  e.isError = true ∧ (statusCode? e = some (.num (.ofNat 401)) ∨ statusCode? e = some (.num (.ofNat 403)) ∨
    Reports e.message)

theorem isRefusalStatus_iff {status : Option Json} : isRefusalStatus status = true ↔
    status = some (.num (.ofNat 401)) ∨ status = some (.num (.ofNat 403)) := by
  rcases status with _ | (_ | _ | n | _ | _ | _) <;> simp [isRefusalStatus]

theorem isRefusal_iff {e : Failure} : isRefusal e = true ↔ Refuses e := by
  cases e with
  | service fault =>
    rw [isRefusal, Bool.or_eq_true, isRefusalStatus_iff, reportsRefusal_iff, or_assoc]
    exact ⟨fun refuses => ⟨rfl, refuses⟩, And.right⟩
  | _ => simp [isRefusal, reportsRefusal_iff, Refuses, Failure.isError, statusCode?]

/-! ## Destinations -/

/-- **Where a login goes.** -/
inductive Destination where
  /-- To a registry: a host, with or without a port. -/
  | registry (host : String)
  /-- To the hub. -/
  | hub

namespace Destination

/-- Where logins for a repository go. -/
inductive Of (raw : String) : Destination → Prop
  /-- The repository is given by a URI: to the registry in it. -/
  | registry {host path : List Char} : Repository.IsReference raw.toList host path →
      Of raw (.registry (String.ofList host))
  /-- It is given by a bare name: to the hub. -/
  | hub : Repository.IsLabel raw.toList → Of raw .hub

/-- The registry, if it is not the hub. -/
def host? : Destination → Option String
  | .registry host => some host
  | .hub => none

/-- The address that an engine logs in to. -/
def address : Destination → String
  | .registry host => host
  | .hub => hubAddress

/-- The argument of the command: none for the hub. -/
def args : Destination → List String
  | .registry host => [host]
  | .hub => []

/-- What the command is said to be logged in to. -/
def title : Destination → String
  | .registry host => host
  | .hub => "Docker Hub"

variable {raw : String} {place place' : Destination}

/-- No registry stands for the hub. -/
theorem getD_host? (place : Destination) : place.host?.getD hubAddress = place.address := by
  cases place <;> rfl

/-- Logins for a repository go to one place. -/
theorem Of.unique (h : Of raw place) (h' : Of raw place') : place = place' := by
  cases h with
  | registry reference =>
    cases h' with
    | registry reference' => rw [(reference.unique reference').1]
    | hub label => exact absurd reference (label.not_isReference _ _)
  | hub label =>
    cases h' with
    | registry reference => exact absurd reference (label.not_isReference _ _)
    | hub => rfl

end Destination

/-! ## What becomes of failures -/

/-- **What becomes of a failed login.** -/
inductive Fate (title : String) (e : Failure) : Failure → Prop
  /-- The credentials were refused: an authorization failure that keeps the error and its message. -/
  | refused : Refuses e → Fate title e (.authorization (.registryLogin title) (some e.describe) (some e))
  /-- Something else has failed: this is passed on. -/
  | other : ¬ Refuses e → Fate title e e

variable {daemon binary command title : String} {ctx : Context} {user : String × String} {place : Destination}
  {e failure : Failure} {deeds : List Deed}

/-- A target is called by the canonical ID. -/
theorem targetName_eq {id : ResourceId} (aimed : ctx.resource = some id) : targetName ctx = id.canonicalId := by
  rw [targetName, aimed]

theorem fate_iff {id : ResourceId} (aimed : ctx.resource = some id) :
    Fate id.canonicalId e failure ↔ failure = loginFailure ctx e := by
  rw [loginFailure, targetName_eq aimed]
  constructor
  · rintro (refuses | other)
    · rw [if_pos (isRefusal_iff.2 refuses)]
    · rw [if_neg (mt isRefusal_iff.1 other)]
  · rintro rfl
    split_ifs with refuses
    · exact .refused (isRefusal_iff.1 refuses)
    · exact .other (mt isRefusal_iff.2 refuses)

/-- What the set-up makes of a run of the command. -/
def resultOf (ctx : Context) (command : String) : Except Failure ToolResult → Except Failure Unit
  | .error e => .error (.localTool command none e.describe (some e))
  | .ok r => (toolFailure? ctx command r).elim (.ok ()) .error

/-- The login of a user. -/
def loginAt (user : String × String) (place : Destination) : RegistryLogin := ⟨user.1, user.2, place.address⟩

/-- What is written after a run of the command, if it has succeeded. -/
def greeting (place : Destination) (result : Except Failure Unit) : List LogLine :=
  if result.toBool then [⟨.info, typeId ++ ": local Docker CLI logged in to " ++ place.title⟩] else []

section
variable {id : ResourceId} (held : UserOf ctx.credentials user) (aimed : ctx.resource = some id)
  (named : id.part? "registry" = place.host?)

include aimed named in
theorem registryOf_eq : registryOf ctx = place.host? := by
  rw [registryOf, aimed, Option.bind_some, named]

include held aimed named

theorem loginFor_eq : loginFor ctx = .ok (loginAt user place) := by
  have address : (registryOf ctx).getD hubAddress = place.address := by
    rw [registryOf_eq aimed named, place.getD_host?]
  rw [loginFor, Credentials.secret_of_held held.username, Credentials.secret_of_held held.password, address]
  rfl

/-- A login is one call, and its failure has its fate. -/
theorem does_login_iff {result : Except Failure RegistryLogin} : (login daemon ctx).Does deeds result ↔
    (∃ u, deeds = [.asked (.login daemon (loginAt user place)) (.ok u)] ∧ result = .ok (loginAt user place)) ∨
    ∃ e failure, Fate id.canonicalId e failure ∧
      deeds = [.asked (.login daemon (loginAt user place)) (.error e)] ∧ result = .error failure := by
  simp only [fate_iff aimed]
  rw [login, loginFor_eq held aimed named, Routine.ofExcept_ok_bind]
  refine Routine.does_ask_iff.trans ?_
  constructor
  · rintro ⟨u | e, later, run, rfl⟩
    · obtain ⟨rfl, rfl⟩ := Routine.does_done_iff.1 run
      exact .inr ⟨_, _, rfl, rfl, rfl⟩
    · obtain ⟨rfl, rfl⟩ := Routine.does_done_iff.1 run
      exact .inl ⟨_, rfl, rfl⟩
  · rintro (⟨u, rfl, rfl⟩ | ⟨e, _, rfl, rfl, rfl⟩)
    · exact ⟨.ok u, [], .done _, rfl⟩
    · exact ⟨.error e, [], .done _, rfl⟩

theorem does_connect_iff {result : Except Failure Client} : (connect daemon ctx).Does deeds result ↔ ∃ engine,
    (∃ u, deeds = [.took engine, .asked (.login daemon (loginAt user place)) (.ok u),
        .wrote ⟨.info, typeId ++ ": logged in to " ++ place.address⟩] ∧
      result = .ok (.engine engine place.host? (loginAt user place))) ∨
    ∃ e failure, Fate id.canonicalId e failure ∧
      deeds = [.took engine, .asked (.login daemon (loginAt user place)) (.error e)] ∧ result = .error failure := by
  have steps : connect daemon ctx = .allocate fun engine => login daemon ctx >>= fun auth =>
      .note .info (typeId ++ ": logged in to " ++ auth.serverAddress)
        (.done (.ok (.engine engine (registryOf ctx) auth))) := rfl
  rw [steps, Routine.does_allocate_iff, registryOf_eq aimed named]
  refine exists_congr fun engine => ?_
  simp only [Routine.does_bind_iff, does_login_iff held aimed named, Routine.does_note_iff, Routine.does_done_iff]
  constructor
  · rintro ⟨_, ⟨_, _, _, login, ⟨_, ⟨rfl, rfl⟩, rfl⟩, rfl⟩ | ⟨_, login, rfl⟩, rfl⟩
    all_goals rcases login with ⟨u, rfl, ⟨⟩⟩ | ⟨e, _, fate, rfl, ⟨⟩⟩
    · exact .inl ⟨u, rfl, rfl⟩
    · exact .inr ⟨e, _, fate, rfl, rfl⟩
  · rintro (⟨u, rfl, rfl⟩ | ⟨e, failure, fate, rfl, rfl⟩)
    · exact ⟨_, .inl ⟨_, _, _, .inl ⟨u, rfl, rfl⟩, ⟨[], ⟨rfl, rfl⟩, rfl⟩, rfl⟩, rfl⟩
    · exact ⟨_, .inr ⟨failure, .inr ⟨e, failure, fate, rfl, rfl⟩, rfl⟩, rfl⟩

theorem does_verify_iff {discover : Bool} {result : Except Failure VerifyOutcome} :
    (verify daemon ctx discover).Does deeds result ↔
      (∃ e, deeds = [.asked (.ping daemon) (.error e)] ∧
        result = .ok (.unreachable ("Docker daemon unavailable: " ++ e.describe))) ∨
      (∃ alive u, deeds = [.asked (.ping daemon) (.ok alive), .asked (.login daemon (loginAt user place)) (.ok u)] ∧
        result = .ok (.verified [id.canonicalId])) ∨
      ∃ alive e failure, Fate id.canonicalId e failure ∧ deeds = [.asked (.ping daemon) (.ok alive),
        .asked (.login daemon (loginAt user place)) (.error e)] ∧ result = .error failure := by
  rw [verify, aimed]
  refine Routine.does_ask_iff.trans ?_
  constructor
  · rintro ⟨e | alive, later, run, rfl⟩
    · obtain ⟨rfl, rfl⟩ := Routine.does_done_iff.1 run
      exact .inl ⟨e, rfl, rfl⟩
    · -- the daemon is there, and the credentials are checked by a login
      have run : (login daemon ctx >>= fun _ => .done (.ok (.verified [id.canonicalId]))).Does later result := run
      simp only [Routine.does_bind_iff, does_login_iff held aimed named, Routine.does_done_iff] at run
      obtain ⟨_, _, _, login, ⟨rfl, rfl⟩, rfl⟩ | ⟨_, login, rfl⟩ := run
      all_goals rcases login with ⟨u, rfl, ⟨⟩⟩ | ⟨e, _, fate, rfl, ⟨⟩⟩
      · exact .inr (.inl ⟨alive, u, rfl, rfl⟩)
      · exact .inr (.inr ⟨alive, e, _, fate, rfl, rfl⟩)
  · rintro (⟨e, rfl, rfl⟩ | ⟨alive, u, rfl, rfl⟩ | ⟨alive, e, failure, fate, rfl, rfl⟩)
    · exact ⟨.error e, [], .done _, rfl⟩
    · refine ⟨.ok alive, _, ?_, rfl⟩
      exact Routine.does_bind_iff.2
        (.inl ⟨_, _, [], (does_login_iff held aimed named).2 (.inl ⟨u, rfl, rfl⟩), .done _, rfl⟩)
    · refine ⟨.ok alive, _, ?_, rfl⟩
      exact Routine.does_bind_iff.2
        (.inr ⟨failure, (does_login_iff held aimed named).2 (.inr ⟨e, failure, fate, rfl, rfl⟩), rfl⟩)

end

end Docker

end ServiceAccess

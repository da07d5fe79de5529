import ServiceAccess.Proofs.Provider.Session
import ServiceAccess.Proofs.Resource.Buckets
import ServiceAccess.Proofs.Routine
import ServiceAccess.Proofs.Routine.Deeds

/-! # Connecting and verifying agree

A handshake and a verification make the same call, with the same session. What they make of its failure is decided by
what the failure means, and they differ only where the cloud was out of reach: this fails a handshake, and it leaves
a verification open. A refusal never does.

* **`Cloud.classify_eq_rejected_iff`**, **`Cloud.classify_eq_notFound_iff`**: which failures refuse credentials, and
  which tell of missing targets. Error codes do not matter for either.
* **`Cloud.Fate`**: what becomes of a failure.
* **`Cloud.agree_on_failures`**: every run of a handshake and of a verification, from those of the call. -/

namespace ServiceAccess.Cloud

/-! ## What failures mean -/

/-- **A failure that refuses credentials**: an error object with such a status or with such a name. -/
def Refuses (e : Failure) : Prop :=
  e.isError = true ∧ (status? e = some (.ofNat 401) ∨ status? e = some (.ofNat 403) ∨ e.name ∈ rejectedNames)

/-- **A failure that tells of a missing target**: an error object with such a status or with such a name. -/
def Misses (e : Failure) : Prop :=
  e.isError = true ∧ (status? e = some (.ofNat 404) ∨ e.name ∈ notFoundNames)

/-- **A failure that tells that the cloud is out of reach**: an error object without a status, with such a name or
code. -/
def Strands (e : Failure) : Prop :=
  e.isError = true ∧ status? e = none ∧ (e.name = "TimeoutError" ∨ ∃ code ∈ networkCodes, codeText? e = some code)

instance (e : Failure) : Decidable (Refuses e) := inferInstanceAs (Decidable (_ ∧ _))

instance (e : Failure) : Decidable (Misses e) := inferInstanceAs (Decidable (_ ∧ _))

instance (e : Failure) : Decidable (Strands e) := inferInstanceAs (Decidable (_ ∧ _))

variable {e : Failure}

/-- **What a failure means** is the first of these that applies. -/
theorem classify_eq (e : Failure) : classify e =
    if Refuses e then .rejected else if Misses e then .notFound else if Strands e then .unreachable else .other := by
  have coded : ((codeText? e).map networkCodes.contains).getD false = true ↔
      ∃ code ∈ networkCodes, codeText? e = some code := by
    cases codeText? e <;> simp
  unfold classify Refuses Misses Strands
  by_cases error : e.isError = true <;> simp [error, or_assoc, coded]

theorem classify_eq_rejected_iff : classify e = .rejected ↔ Refuses e := by
  rw [classify_eq]
  split_ifs <;> simp [*]

theorem classify_eq_notFound_iff : classify e = .notFound ↔ ¬ Refuses e ∧ Misses e := by
  rw [classify_eq]
  split_ifs <;> simp [*]

/-- A failure with another error code. -/
def withCode (code : Option Json) : Failure → Failure
  | .service fault => .service { fault with code := code }
  | failure => failure

/-- Codes do not matter where credentials are refused or targets are missing. -/
theorem classify_withCode (known : classify e = .rejected ∨ classify e = .notFound) (code : Option Json) :
    classify (withCode code e) = classify e := by
  have refuses : Refuses (withCode code e) ↔ Refuses e := by cases e <;> exact Iff.rfl
  have misses : Misses (withCode code e) ↔ Misses e := by cases e <;> exact Iff.rfl
  rcases known with rejected | missing
  · rw [rejected, classify_eq_rejected_iff, refuses]
    exact classify_eq_rejected_iff.1 rejected
  · rw [missing, classify_eq_notFound_iff, refuses, misses]
    exact classify_eq_notFound_iff.1 missing

/-- A refusal by a provider says nothing about the cloud. -/
theorem classify_authorization (refusal : Refusal) (diagnostic : Option String) (cause : Option Failure) :
    classify (.authorization refusal diagnostic cause) = .other := rfl

/-! ## Targets -/

/-- What credentials are checked against. -/
inductive Target where
  /-- The account that they belong to. -/
  | account
  /-- A bucket. -/
  | bucket (name : String)

namespace Target

/-- A target, as a connector has it. -/
inductive Is : Target → Option ResourceId → Prop
  /-- There is no resource ID. -/
  | account : Is .account none
  /-- A resource ID of a bucket has been read. -/
  | bucket {raw name : String} {id : ResourceId} : Bucket.resolver.parse raw = .ok id →
      id.canonicalId = "s3://" ++ name → Is (.bucket name) (some id)

/-- What messages call a target. -/
def title (session : CloudSession) : Target → String
  | .account => "account in " ++ session.region
  | .bucket name => "s3://" ++ name

/-- The canonical IDs of a target. -/
def ids : Target → List String
  | .account => []
  | .bucket name => ["s3://" ++ name]

/-- What the cloud answers to a check. -/
def Answer : Target → Type
  | .account => CallerIdentity
  | .bucket _ => Unit

/-- What is written after a check: whom the cloud takes the caller for, if it says so. -/
def greeting : (target : Target) → target.Answer → List Deed
  | .account, (who : CallerIdentity) =>
    [.wrote ⟨.info, typeId ++ ": authenticated as " ++ who.arn.getD "unknown principal"⟩]
  | .bucket _, _ => []

end Target

/-- The call that checks credentials against a target. -/
def Interface.check (api : Interface) (session : CloudSession) : (target : Target) → Routine target.Answer
  | .account => api.identity session
  | .bucket name => api.bucketExists session name

variable {api : Interface} {ctx : Context} {session : CloudSession} {target : Target} {deeds : List Deed}

/-! ## What becomes of failures -/

/-- **What becomes of a failure**: how a handshake fails, and how a verification ends. -/
inductive Fate (title : String) (e : Failure) : Failure → Except Failure VerifyOutcome → Prop
  /-- The credentials were refused: an authorization failure that names the target. -/
  | rejected : classify e = .rejected →
      Fate title e (.authorization (.cloudCredentials title) (some e.describe) (some e))
        (.error (.authorization (.cloudCredentials title) (some e.describe) (some e)))
  /-- The target is missing: an authorization failure that names it. -/
  | notFound : classify e = .notFound →
      Fate title e (.authorization (.cloudTarget title) (some e.describe) (some e))
        (.error (.authorization (.cloudTarget title) (some e.describe) (some e)))
  /-- The failure means something else: it is passed on. -/
  | other : classify e = .other → Fate title e e (.error e)
  /-- The cloud was out of reach: the question is left open. -/
  | unreachable : classify e = .unreachable →
      Fate title e e (.ok (.unreachable ("AWS endpoint unreachable: " ++ e.describe)))

/-- After a failure a verification ends at once. -/
theorem exists_inconclusive (failure : Failure) : ∃ result, inconclusive failure = .done result := by
  unfold inconclusive
  split
  · exact ⟨_, rfl⟩
  · exact ⟨_, rfl⟩

/-- A failure has the one fate that it is mapped to. -/
theorem fate_iff {title : String} {failure : Failure} {result : Except Failure VerifyOutcome} :
    Fate title e failure result ↔ failure = guardFailure title e ∧ inconclusive failure = .done result := by
  constructor
  · rintro (kind | kind | kind | kind)
    · exact ⟨by rw [guardFailure, kind], by rw [inconclusive, classify_authorization]; rfl⟩
    · exact ⟨by rw [guardFailure, kind], by rw [inconclusive, classify_authorization]; rfl⟩
    · exact ⟨by rw [guardFailure, kind], by rw [inconclusive, kind]; rfl⟩
    · exact ⟨by rw [guardFailure, kind], by rw [inconclusive, kind]; rfl⟩
  · rintro ⟨mapped, ended⟩
    cases kind : classify e <;> rw [guardFailure, kind] at mapped <;> subst mapped
    case rejected =>
      rw [inconclusive, classify_authorization] at ended
      obtain rfl := Routine.done.inj ended
      exact .rejected kind
    case notFound =>
      rw [inconclusive, classify_authorization] at ended
      obtain rfl := Routine.done.inj ended
      exact .notFound kind
    case other =>
      rw [inconclusive, kind] at ended
      obtain rfl := Routine.done.inj ended
      exact .other kind
    case unreachable =>
      rw [inconclusive, kind] at ended
      obtain rfl := Routine.done.inj ended
      exact .unreachable kind

/-- Every failure has a fate. -/
theorem exists_fate (title : String) (e : Failure) : ∃ result, Fate title e (guardFailure title e) result := by
  obtain ⟨result, ended⟩ := exists_inconclusive (guardFailure title e)
  exact ⟨result, fate_iff.2 ⟨rfl, ended⟩⟩

/-! ## Runs -/

section
variable {α : Type} {title : String} {call : Routine α}

/-- A guarded call is the call; its failure is mapped. -/
theorem does_guarded_iff {result : Except Failure α} : (guarded title call).Does deeds result ↔
    (∃ a, call.Does deeds (.ok a) ∧ result = .ok a) ∨
      ∃ e, call.Does deeds (.error e) ∧ result = .error (guardFailure title e) := by
  refine Routine.does_attempt_done_iff (fun a => ?_) fun e => ?_
  · rfl
  · rfl

theorem does_guarded_ok_iff {a : α} : (guarded title call).Does deeds (.ok a) ↔ call.Does deeds (.ok a) := by
  simp [does_guarded_iff]

theorem does_guarded_error_iff {failure : Failure} : (guarded title call).Does deeds (.error failure) ↔
    ∃ e, call.Does deeds (.error e) ∧ failure = guardFailure title e := by
  simp [does_guarded_iff]

/-- A verification ends after its check. A failure of the call, which the check has mapped, has its fate. -/
theorem does_verdict_iff {β : Type} {r : Routine β} {f : Except Failure β → Routine VerifyOutcome}
    {outcome : β → VerifyOutcome} (succeeded : ∀ b, f (.ok b) = .done (.ok (outcome b)))
    (failed : ∀ failure, f (.error failure) = inconclusive failure)
    (mapped : ∀ failure, r.Does deeds (.error failure) ↔
      ∃ e, call.Does deeds (.error e) ∧ failure = guardFailure title e)
    {result : Except Failure VerifyOutcome} : (r.attempt f).Does deeds result ↔
      (∃ b, r.Does deeds (.ok b) ∧ result = .ok (outcome b)) ∨
      ∃ e failure verified, call.Does deeds (.error e) ∧ Fate title e failure verified ∧ result = verified := by
  choose verdict ended using exists_inconclusive
  simp only [ended] at failed
  rw [Routine.does_attempt_done_iff succeeded failed]
  refine or_congr_right ?_
  simp only [mapped, fate_iff, ended, Routine.done.injEq]
  constructor
  · rintro ⟨_, ⟨e, run, rfl⟩, rfl⟩
    exact ⟨e, _, _, run, ⟨rfl, rfl⟩, rfl⟩
  · rintro ⟨e, _, _, run, ⟨rfl, rfl⟩, rfl⟩
    exact ⟨_, ⟨e, run, rfl⟩, rfl⟩

end

/-- The check of a bucket is the call. -/
theorem probe_bucket {name : String} (aimed : (Target.bucket name).Is ctx.resource) :
    probe api ctx session = guarded ((Target.bucket name).title session) (api.bucketExists session name) := by
  generalize held : ctx.resource = resource at aimed
  cases aimed with
  | bucket parsed named =>
    obtain ⟨-, name', -, rfl⟩ := Bucket.parse_eq_ok_iff.1 parsed
    obtain rfl : name' = name := by simpa using named
    rw [probe, held]
    rfl

/-- The check of the account is the call and a greeting. -/
theorem probe_account (aimed : Target.account.Is ctx.resource) : probe api ctx session = (do
    let who ← guarded (Target.account.title session) (api.identity session)
    Routine.log .info (typeId ++ ": authenticated as " ++ who.arn.getD "unknown principal")) := by
  generalize held : ctx.resource = resource at aimed
  cases aimed with
  | account =>
    rw [probe, held]
    rfl

/-- **A check is one call**, and a greeting after its success. -/
theorem does_probe_ok_iff (aimed : target.Is ctx.resource) : (probe api ctx session).Does deeds (.ok ()) ↔
    ∃ who calls, (api.check session target).Does calls (.ok who) ∧ deeds = calls ++ target.greeting who := by
  cases target with
  | account =>
    rw [probe_account aimed, Routine.does_bind_iff]
    simp only [does_guarded_ok_iff, Routine.log, Routine.does_note_iff, Routine.does_done_iff]
    constructor
    · rintro (⟨calls, who, _, run, ⟨_, ⟨rfl, -⟩, rfl⟩, rfl⟩ | ⟨_, -, ⟨⟩⟩)
      exact ⟨who, calls, run, rfl⟩
    · rintro ⟨who, calls, run, rfl⟩
      exact .inl ⟨calls, who, _, run, ⟨[], ⟨rfl, trivial⟩, rfl⟩, rfl⟩
  | bucket name =>
    rw [probe_bucket aimed, does_guarded_ok_iff]
    constructor
    · intro run
      exact ⟨(), deeds, run, (List.append_nil _).symm⟩
    · rintro ⟨_, calls, run, rfl⟩
      rwa [Target.greeting, List.append_nil]

/-- A check does nothing else when the call fails. -/
theorem does_probe_error_iff (aimed : target.Is ctx.resource) {failure : Failure} :
    (probe api ctx session).Does deeds (.error failure) ↔
      ∃ e, (api.check session target).Does deeds (.error e) ∧ failure = guardFailure (target.title session) e := by
  cases target with
  | account =>
    rw [probe_account aimed, Routine.does_bind_iff]
    simp only [does_guarded_error_iff, Routine.log, Routine.does_note_iff, Routine.does_done_iff]
    constructor
    · rintro (⟨_, _, _, -, ⟨_, ⟨-, ⟨⟩⟩, -⟩, -⟩ | ⟨_, ⟨e, run, rfl⟩, same⟩)
      exact ⟨e, run, Except.error.inj same⟩
    · rintro ⟨e, run, rfl⟩
      exact .inr ⟨_, ⟨e, run, rfl⟩, rfl⟩
  | bucket name =>
    rw [probe_bucket aimed, does_guarded_error_iff]
    exact Iff.rfl

/-- A handshake makes the call, greets and takes a handle for its client. -/
theorem does_connect_iff (read : sessionOf ctx.credentials = .ok session) (aimed : target.Is ctx.resource)
    {result : Except Failure Client} : (connect api ctx).Does deeds result ↔
      (∃ who calls handle, (api.check session target).Does calls (.ok who) ∧
        deeds = calls ++ target.greeting who ++ [.took handle] ∧ result = .ok (.cloud ⟨handle,
          if ctx.resourceType.id = Bucket.resourceType then .storage else .tokens, session⟩)) ∨
      ∃ e failure verified, (api.check session target).Does deeds (.error e) ∧
        Fate (target.title session) e failure verified ∧ result = .error failure := by
  rw [connect, read, Routine.ofExcept_ok_bind, Routine.does_bind_iff]
  simp only [does_probe_ok_iff aimed, does_probe_error_iff aimed, Routine.does_allocate_iff]
  constructor
  · rintro (⟨_, _, _, ⟨who, calls, run, rfl⟩, ⟨handle, _, ended, rfl⟩, rfl⟩ | ⟨_, ⟨e, run, rfl⟩, rfl⟩)
    · obtain ⟨rfl, rfl⟩ := Routine.does_done_iff.1 ended
      exact .inl ⟨who, calls, handle, run, rfl, rfl⟩
    · obtain ⟨verified, fate⟩ := exists_fate (target.title session) e
      exact .inr ⟨e, _, verified, run, fate, rfl⟩
  · rintro (⟨who, calls, handle, run, rfl, rfl⟩ | ⟨e, failure, verified, run, fate, rfl⟩)
    · exact .inl ⟨_, (), _, ⟨who, calls, run, rfl⟩, ⟨handle, [], .done _, rfl⟩, rfl⟩
    · exact .inr ⟨failure, ⟨e, run, (fate_iff.1 fate).1⟩, rfl⟩

/-- A verification of a target makes the call and greets. -/
theorem does_verify_iff (read : sessionOf ctx.credentials = .ok session) (aimed : target.Is ctx.resource)
    {result : Except Failure VerifyOutcome} : (verify api ctx false).Does deeds result ↔
      (∃ who calls, (api.check session target).Does calls (.ok who) ∧ deeds = calls ++ target.greeting who ∧
        result = .ok (.verified target.ids)) ∨
      ∃ e failure verified, (api.check session target).Does deeds (.error e) ∧
        Fate (target.title session) e failure verified ∧ result = verified := by
  have ids : (ctx.resource.map ResourceId.canonicalId).toList = target.ids := by
    generalize ctx.resource = resource at aimed
    cases aimed with
    | account => rfl
    | bucket _ named => exact congrArg (fun id => [id]) named
  rw [verify, read, Routine.ofExcept_ok_bind, if_neg Bool.false_ne_true, ids]
  refine (does_verdict_iff (by intro _; rfl) (by intro _; rfl) fun _ => does_probe_error_iff aimed).trans ?_
  refine or_congr_left ?_
  constructor
  · rintro ⟨_, greeted, rfl⟩
    obtain ⟨who, calls, run, rfl⟩ := (does_probe_ok_iff aimed).1 greeted
    exact ⟨who, calls, run, rfl, rfl⟩
  · rintro ⟨who, calls, run, rfl, rfl⟩
    exact ⟨(), (does_probe_ok_iff aimed).2 ⟨who, calls, run, rfl⟩, rfl⟩

/-- A verification with discovery lists the buckets. -/
theorem does_discovery_iff (read : sessionOf ctx.credentials = .ok session)
    {result : Except Failure VerifyOutcome} : (verify api ctx true).Does deeds result ↔
      (∃ buckets, (api.buckets session).Does deeds (.ok buckets) ∧ result = .ok (.verified buckets)) ∨
      ∃ e failure verified, (api.buckets session).Does deeds (.error e) ∧
        Fate "bucket listing" e failure verified ∧ result = verified := by
  rw [verify, read, Routine.ofExcept_ok_bind, if_pos rfl]
  refine (does_verdict_iff (by intro _; rfl) (by intro _; rfl) fun _ => does_guarded_error_iff).trans ?_
  simp only [does_guarded_ok_iff]

/-- **Handshakes and verifications agree on every failure.** Both make the one call that checks the target, with the
session that the credentials hold, and do nothing else when it fails. When it succeeds both succeed; its failure has
one fate in both. With discovery the call lists the buckets, and its failures have the same fates. A refusal or a
missing target stays one with any error code. -/
theorem agree_on_failures (api : Interface) {ctx : Context} {b : Bundle} {target : Target}
    (declared : ctx.method ∈ spec.methods) (accepted : Credentials.parse ctx.method b = .ok ctx.credentials)
    (aimed : target.Is ctx.resource) : ∃ session, SessionOf ctx.credentials session ∧
      (∀ deeds result, (connect api ctx).Does deeds result ↔
        (∃ who calls handle, (api.check session target).Does calls (.ok who) ∧
          deeds = calls ++ target.greeting who ++ [.took handle] ∧ result = .ok (.cloud ⟨handle,
            if ctx.resourceType.id = Bucket.resourceType then .storage else .tokens, session⟩)) ∨
        ∃ e failure verified, (api.check session target).Does deeds (.error e) ∧
          Fate (target.title session) e failure verified ∧ result = .error failure) ∧
      (∀ deeds result, (verify api ctx false).Does deeds result ↔
        (∃ who calls, (api.check session target).Does calls (.ok who) ∧ deeds = calls ++ target.greeting who ∧
          result = .ok (.verified target.ids)) ∨
        ∃ e failure verified, (api.check session target).Does deeds (.error e) ∧
          Fate (target.title session) e failure verified ∧ result = verified) ∧
      (∀ deeds result, (verify api ctx true).Does deeds result ↔
        (∃ buckets, (api.buckets session).Does deeds (.ok buckets) ∧ result = .ok (.verified buckets)) ∨
        ∃ e failure verified, (api.buckets session).Does deeds (.error e) ∧
          Fate "bucket listing" e failure verified ∧ result = verified) ∧
      ∀ e code, classify e = .rejected ∨ classify e = .notFound → classify (withCode code e) = classify e := by
  obtain ⟨session, read, held⟩ := exists_session declared accepted
  exact ⟨session, held, fun _ _ => does_connect_iff read aimed, fun _ _ => does_verify_iff read aimed,
    fun _ _ => does_discovery_iff read, fun _ code known => classify_withCode known code⟩

/-- Long-lived keys, with the default region. -/
def logKeys : Bundle := .ofList [("accessKeyId", .value (.str "id")), ("secretAccessKey", .value (.str "key"))]

/-- A refused bucket: both fail alike, although the refusal has the code of a network failure. -/
theorem agree_on_failures_logs : ∃ ctx session e failure, ctx.method ∈ spec.methods ∧
    Credentials.parse ctx.method logKeys = .ok ctx.credentials ∧ (Target.bucket "logs").Is ctx.resource ∧
    codeText? e = some "ECONNREFUSED" ∧
    failure = .authorization (.cloudCredentials "s3://logs") (some "Access Denied") (some e) ∧
    (connect (.named "cloud") ctx).Does [.asked (.bucketExists "cloud" session "logs") (.error e)] (.error failure) ∧
    (verify (.named "cloud") ctx false).Does [.asked (.bucketExists "cloud" session "logs") (.error e)]
      (.error failure) := by
  obtain ⟨m, declared, c, accepted⟩ : ∃ m ∈ spec.methods, ∃ c, Credentials.parse m logKeys = .ok c :=
    ⟨_, List.mem_cons_self, _, rfl⟩
  obtain ⟨id, read, named⟩ : ∃ id, Bucket.resolver.parse "logs" = .ok id ∧ id.canonicalId = "s3://logs" :=
    ⟨_, rfl, rfl⟩
  obtain ⟨r, -⟩ : ∃ r, spec.resourceType? Bucket.resourceType = some r := ⟨_, rfl⟩
  let ctx : Context := ⟨spec, m, c, r, some id⟩
  let e : Failure := .service ⟨"AccessDenied", "Access Denied", some (.str "ECONNREFUSED"), none, none⟩
  have aimed : (Target.bucket "logs").Is ctx.resource := .bucket read named
  obtain ⟨session, -, connected, verified, -⟩ :=
    @agree_on_failures (.named "cloud") ctx logKeys (.bucket "logs") declared accepted aimed
  have failed : ((Interface.named "cloud").check session (.bucket "logs")).Does
      [.asked (.bucketExists "cloud" session "logs") (.error e)] (.error e) := .ask _ (.done _)
  have fate : Fate ((Target.bucket "logs").title session) e _ _ := .rejected rfl
  exact ⟨ctx, session, e, _, declared, accepted, aimed, rfl, rfl,
    (connected _ _).2 (.inr ⟨e, _, _, failed, fate, rfl⟩), (verified _ _).2 (.inr ⟨e, _, _, failed, fate, rfl⟩)⟩

end ServiceAccess.Cloud

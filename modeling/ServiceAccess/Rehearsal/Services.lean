import ServiceAccess.Rehearsal.Profile
import ServiceAccess.Rehearsal.Tool
import ServiceAccess.Rehearsal.World
import ServiceAccess.Text.Path

/-! # The scripted services of a session

What a question shows when it is asked, which gate its answer waits for, and what the answer is. -/

namespace ServiceAccess.Rehearsal.Session.World

/-- What asking leads to: the world, the number of the handshake, and the gate to wait for. -/
abbrev Asked := World × Nat × Option String

/-- A cloud client sends a request. -/
def send (w : World) (client : CloudClient) (request : CloudRequest) : World :=
  let (w, label) := w.cloudLabel client
  w.record (.send label client request)

/-- A call of an extension is made. -/
def askExtension (w : World) (service : String) : ExtensionCall → Asked
  | .connect method resourceType resource credential =>
    let serial := (w.serials.get? service).getD 0 + 1
    let w := { w with serials := w.serials.insert service serial }
    (w.record (.connect serial method resourceType resource credential), serial,
      (w.script service).gate)
  | .verify method resourceType resource discover =>
    (w.record (.verify method resourceType resource discover), 0, none)
  | .release serial => (w.record (.release serial), 0, (w.script service).disconnectGate)
  | .configureLocal resource => (w.record (.configureLocal resource), 0, none)
  | .autoConfigure request => (w.record (.autoConfigure request), 0, none)

/-- A question is asked. -/
def askQuery (w : World) : Query → Asked
  | .ping _ => (w.record .ping, 0, none)
  | .login daemon auth => (w.record (.login auth), 0, (w.script daemon).loginGate)
  | .runTool daemon run =>
    (if w.realTools.contains daemon then w else w.record (.ran run), 0, none)
  | .callerIdentity _ session => (w.record (.callerIdentity session), 0, none)
  | .buckets _ session => (w.record (.buckets session), 0, none)
  | .bucketExists _ session bucket => (w.record (.bucket session bucket), 0, none)
  | .sendIdentity client => (w.send client .identity, 0, none)
  | .sendHead client bucket => (w.send client (.bucket bucket), 0, none)
  | .profile _ => (w, 0, none)
  | .extension service call => w.askExtension service call

/-- A value, unless a script says otherwise. -/
def unlessFails {α : Type} (failure : Option Failure) (value : α) : Except Failure α :=
  match failure with
  | some f => .error f
  | none => .ok value

/-- The next reply of the cloud. -/
def nextReply (w : World) : World × Except Failure CloudReply :=
  match w.replies with
  | [] => (w, .error (.service (.plain "no scripted response")))
  | reply :: rest => ({ w with replies := rest }, reply)

/-- The failure of asking for a missing bucket. -/
def missingBucket : Failure :=
  .service ⟨"NotFound", "NotFound", none, none, some (.obj [("httpStatusCode", .num (Number.ofNat 404))])⟩

/-- How a handshake ends. -/
def connectAnswer (s : Script) (serial : Nat) (resource credential : Option String) :
    Except Failure ExtensionClient :=
  match s.connectError with
  | some failure => .error failure
  | none =>
    if s.reject.isSome ∧ s.reject = credential then
      .error (.authorization (.stated "Widget service rejected the credentials")
        (some "401 bad token") none)
    else .ok ⟨serial, resource, credential⟩

/-- How a verification ends. -/
def verifyAnswer (s : Script) (resource : Option String) (discover : Bool) :
    Except Failure VerifyOutcome :=
  match s.unreachable, s.verifyError with
  | some reason, _ => .ok (.unreachable reason)
  | none, some failure => .error failure
  | none, none => .ok (.verified (if discover then s.discoverable else resource.toList))

/-- How a release ends. -/
def releaseAnswer (s : Script) (serial : Nat) : Except Failure Unit :=
  match s.disconnectErrorFor.filter fun n => n ≠ serial with
  | some _ => .ok ()
  | none => unlessFails s.disconnectError ()

/-- The answer to a call of an extension. -/
def answerExtension (s : Script) (serial : Nat) : (call : ExtensionCall) → Except Failure call.Answer
  | .connect _ _ resource credential => connectAnswer s serial resource credential
  | .verify _ _ resource discover => verifyAnswer s resource discover
  | .release released => releaseAnswer s released
  | .configureLocal _ => unlessFails s.localError ()
  | .autoConfigure _ => .ok ()

/-- The access keys of a shared profile. A file that is not there is empty. -/
def profileAnswer (w : World) (q : ProfileQuery) : Except Failure AccessKeys :=
  let text := fun (path : Option String) =>
    ((path.map Text.Path.resolve).bind w.files.get?).getD ""
  Profile.keys (text q.credentialsFile) (text q.configFile) q.profile

/-- The answer to a question. -/
def answer (w : World) (serial : Nat) : (q : Query) → World × Except Failure q.Answer
  | .ping daemon => (w, unlessFails (w.script daemon).pingError ())
  | .login daemon _ => (w, unlessFails (w.script daemon).loginError ())
  | .runTool daemon run =>
    (w, if w.realTools.contains daemon then Tool.run run ∅ else (w.script daemon).run)
  | .callerIdentity name _ => (w, unlessFails (w.script name).failure (w.script name).identity)
  | .buckets name _ => (w, unlessFails (w.script name).failure (w.script name).buckets)
  | .bucketExists name _ bucket =>
    (w, match (w.script name).failure with
      | some failure => .error failure
      | none => if (w.script name).buckets.contains bucket then .ok () else .error missingBucket)
  | .sendIdentity _ => let (w, reply) := w.nextReply; (w, reply.map CloudReply.identity)
  | .sendHead .. => let (w, reply) := w.nextReply; (w, reply.map fun _ => ())
  | .profile q => (w, w.profileAnswer q)
  | .extension service call => (w, answerExtension (w.script service) serial call)

end ServiceAccess.Rehearsal.Session.World

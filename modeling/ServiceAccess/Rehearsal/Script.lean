import ServiceAccess.Service

/-! # Scripts of services

How the services behind one connector type behave. A script is changed entry by entry while a rehearsal runs;
an entry without a value clears what was there. -/

namespace ServiceAccess.Rehearsal

/-- How the services behind a connector type behave. -/
structure Script where
  /-- The gate that handshakes wait for. -/
  gate : Option String
  /-- The gate that registry logins wait for. -/
  loginGate : Option String
  /-- The gate that releases wait for. -/
  disconnectGate : Option String
  /-- How handshakes fail. -/
  connectError : Option Failure
  /-- The credential that handshakes refuse. -/
  reject : Option String
  /-- Why the service cannot be reached. -/
  unreachable : Option String
  /-- How verifications fail. -/
  verifyError : Option Failure
  /-- What a verification discovers. -/
  discoverable : List String
  /-- How releases fail. -/
  disconnectError : Option Failure
  /-- The only handshake whose release fails, if not all do. -/
  disconnectErrorFor : Option Nat
  /-- How the set-up of a local tool fails. -/
  localError : Option Failure
  /-- How a container daemon fails to answer. -/
  pingError : Option Failure
  /-- How registry logins fail. -/
  loginError : Option Failure
  /-- How runs of a tool end. -/
  run : Except Failure ToolResult
  /-- How cloud calls fail. -/
  failure : Option Failure
  /-- Who the cloud takes the caller for. -/
  identity : CallerIdentity
  /-- The buckets that there are. -/
  buckets : List String

/-- What a caller is taken for where a script does not say. -/
def defaultIdentity : CallerIdentity := ⟨some "arn:aws:iam::123456789012:user/ci"⟩

/-- How a tool run ends where a script does not say. -/
def successfulRun : Except Failure ToolResult := .ok ⟨0, "", ""⟩

/-- The script of services that always succeed. -/
def Script.smooth : Script :=
  ⟨none, none, none, none, none, none, none, [], none, none, none, none, none, successfulRun, none,
    defaultIdentity, []⟩

/-- A change of a script. -/
inductive ScriptEntry where
  /-- Set the gate of handshakes. -/
  | gate (value : Option String)
  /-- Set the gate of registry logins. -/
  | loginGate (value : Option String)
  /-- Set the gate of releases. -/
  | disconnectGate (value : Option String)
  /-- Set how handshakes fail. -/
  | connectError (value : Option Failure)
  /-- Set the credential to refuse. -/
  | reject (value : Option String)
  /-- Set why the service cannot be reached. -/
  | unreachable (value : Option String)
  /-- Set how verifications fail. -/
  | verifyError (value : Option Failure)
  /-- Set what is discovered. -/
  | discoverable (value : Option (List String))
  /-- Set how releases fail. -/
  | disconnectError (value : Option Failure)
  /-- Set whose release fails. -/
  | disconnectErrorFor (value : Option Nat)
  /-- Set how local set-ups fail. -/
  | localError (value : Option Failure)
  /-- Set how a daemon fails to answer. -/
  | pingError (value : Option Failure)
  /-- Set how registry logins fail. -/
  | loginError (value : Option Failure)
  /-- Set how tool runs end. -/
  | run (value : Option (Except Failure ToolResult))
  /-- Set how cloud calls fail. -/
  | failure (value : Option Failure)
  /-- Set who the caller is taken for. -/
  | identity (value : Option CallerIdentity)
  /-- Set the buckets. -/
  | buckets (value : Option (List String))

/-- Change a script. -/
def Script.apply (s : Script) : ScriptEntry → Script
  | .gate value => { s with gate := value }
  | .loginGate value => { s with loginGate := value }
  | .disconnectGate value => { s with disconnectGate := value }
  | .connectError value => { s with connectError := value }
  | .reject value => { s with reject := value }
  | .unreachable value => { s with unreachable := value }
  | .verifyError value => { s with verifyError := value }
  | .discoverable value => { s with discoverable := value.getD [] }
  | .disconnectError value => { s with disconnectError := value }
  | .disconnectErrorFor value => { s with disconnectErrorFor := value }
  | .localError value => { s with localError := value }
  | .pingError value => { s with pingError := value }
  | .loginError value => { s with loginError := value }
  | .run value => { s with run := value.getD successfulRun }
  | .failure value => { s with failure := value }
  | .identity value => { s with identity := value.getD defaultIdentity }
  | .buckets value => { s with buckets := value.getD [] }

end ServiceAccess.Rehearsal

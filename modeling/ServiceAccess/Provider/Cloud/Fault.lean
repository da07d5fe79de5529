import ServiceAccess.Failure

/-! # Failures of the cloud

What a failure of a cloud call means: the credentials were refused, the target does not exist, the cloud
was out of reach, or something else. -/

namespace ServiceAccess.Cloud

/-- What a failure means. -/
inductive FaultKind where
  /-- The credentials were refused or lack permission. -/
  | rejected
  /-- The target does not exist. -/
  | notFound
  /-- There was no reply. -/
  | unreachable
  /-- Anything else. -/
  | other
deriving DecidableEq

/-- The name of a kind. -/
def FaultKind.name : FaultKind → String
  | .rejected => "rejected"
  | .notFound => "not-found"
  | .unreachable => "unreachable"
  | .other => "other"

/-- The names of errors that refuse credentials. -/
def rejectedNames : List String :=
  ["AccessDenied", "AccessDeniedException", "ExpiredToken", "ExpiredTokenException", "Forbidden",
    "InvalidAccessKeyId", "InvalidClientTokenId", "SignatureDoesNotMatch",
    "UnrecognizedClientException"]

/-- The names of errors about missing targets. -/
def notFoundNames : List String := ["NoSuchBucket", "NotFound"]

/-- The codes of failures below the level of replies. -/
def networkCodes : List String :=
  ["EAI_AGAIN", "ECONNREFUSED", "ECONNRESET", "EHOSTUNREACH", "ENETUNREACH", "ENOTFOUND", "ETIMEDOUT"]

/-- The status of the reply that a failure records, if it records a number. -/
def status? : Failure → Option Number
  | .service fault =>
    match fault.metadata.bind fun m => m.member? "httpStatusCode" with
    | some (.num n) => some n
    | _ => none
  | _ => none

/-- The error code of a failure, if it is a text. -/
def codeText? : Failure → Option String
  | .service fault => fault.code.bind Json.text?
  | failure => failure.code?

/-- What a failure means. The status decides before the name, and a code counts only where there was no
status. -/
def classify (failure : Failure) : FaultKind :=
  if !failure.isError then .other
  else
    let status := status? failure
    let isStatus := fun (n : Nat) => decide (status = some (Number.ofNat n))
    if isStatus 401 || isStatus 403 || rejectedNames.contains failure.name then .rejected
    else if isStatus 404 || notFoundNames.contains failure.name then .notFound
    else if status.isNone && (failure.name == "TimeoutError"
        || ((codeText? failure).map networkCodes.contains).getD false) then .unreachable
    else .other

/-- The failure of a call about a target: refusals and missing targets become authorization failures. -/
def guardFailure (target : String) (failure : Failure) : Failure :=
  match classify failure with
  | .rejected => .authorization (.cloudCredentials target) (some failure.describe) (some failure)
  | .notFound => .authorization (.cloudTarget target) (some failure.describe) (some failure)
  | _ => failure

end ServiceAccess.Cloud

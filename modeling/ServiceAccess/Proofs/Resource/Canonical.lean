import ServiceAccess.Proofs.Connector.Storage
import ServiceAccess.Proofs.Resource.Buckets
import ServiceAccess.Proofs.Resource.Repositories
import ServiceAccess.Provider.Cloud.Basic
import ServiceAccess.Provider.Docker

/-! # Canonical resource IDs

Clients are kept under the canonical IDs of their resources. A canonical ID is itself a raw ID, and it is
read by the same ordered shapes as any other one: it must not look as if it had a scheme, fall to an earlier
shape or be divided at another place.

* **`Repository.retracts`**, **`Bucket.retracts`**: the readers of repositories and of buckets retract.
* **`canonicalIds_retract`**: so the targets of stored connectors are found again. -/

namespace ServiceAccess

/-! ## Repositories and buckets -/

/-- **The reader of repositories retracts.** What a URI stands for has no scheme, and is a reference of its own. -/
theorem Repository.retracts : resolver.Retracts := by
  refine .of_reread fun raw id accepted => ?_
  rcases parse_eq_ok_iff.1 accepted with ⟨registry, path, isReference, rfl⟩ | ⟨isLabel, rfl⟩
  · refine parse_eq_ok_iff.2 (.inl ⟨registry, path, ?_, rfl⟩)
    rw [String.toList_ofList]
    exact isReference.of_canonical
  · exact parse_eq_ok_iff.2 (.inr ⟨isLabel, rfl⟩)

/-- **The reader of buckets retracts.** -/
theorem Bucket.retracts : resolver.Retracts := by
  refine .of_reread fun raw id accepted => ?_
  obtain ⟨shape, bucket, names, rfl⟩ := parse_eq_ok_iff.1 accepted
  exact parse_eq_ok_iff.2 ⟨"S3 URI", bucket, ⟨names.isName, .uri⟩, rfl⟩

/-- The canonical IDs of container repositories stand for themselves. -/
theorem Docker.idsAreStable (daemon binary : String) : (connectorType daemon binary).IdsAreStable :=
  ConnectorType.idsAreStable_of_retracts rfl Repository.retracts

/-- The canonical IDs of buckets stand for themselves. -/
theorem Cloud.idsAreStable (api : Interface) : (connectorType api).IdsAreStable :=
  ConnectorType.idsAreStable_of_retracts rfl Bucket.retracts

/-- **Canonical IDs of repositories and of buckets are read as what they stand for**, and so the canonical IDs of
the connector types that read them stand for themselves. -/
theorem canonicalIds_retract : Repository.resolver.Retracts ∧ Bucket.resolver.Retracts ∧
    (∀ daemon binary, (Docker.connectorType daemon binary).IdsAreStable) ∧
      ∀ api, (Cloud.connectorType api).IdsAreStable :=
  ⟨Repository.retracts, Bucket.retracts, Docker.idsAreStable, Cloud.idsAreStable⟩

/-- The scheme is dropped once, and the rest is divided at the first slash. -/
example : (Repository.resolver.parse "http://ghcr.io:443/https://a").toOption.map
    (fun id => (id.canonicalId, id.part? "registry"))
      = some ("ghcr.io:443/https://a", some "ghcr.io:443") := by rfl

end ServiceAccess

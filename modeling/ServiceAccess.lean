import ServiceAccess.Boot
import ServiceAccess.Proofs.ClientCache.Calls
import ServiceAccess.Rehearsal.Cache
import ServiceAccess.Rehearsal.Extension
import ServiceAccess.Rehearsal.Session
import ServiceAccess.Proofs.ClientCache.SingleFlight
import ServiceAccess.Proofs.ClientCache.Conservation
import ServiceAccess.Proofs.ClientCache.Clearing
import ServiceAccess.Proofs.ClientCache.Draining
import ServiceAccess.Proofs.Number.Rounding
import ServiceAccess.Proofs.Json.Numbers
import ServiceAccess.Proofs.Json.Reading
import ServiceAccess.Proofs.Credentials.Fingerprint
import ServiceAccess.Proofs.Credentials.Accepted
import ServiceAccess.Proofs.Credentials.Admission
import ServiceAccess.Proofs.Credentials.Validation
import ServiceAccess.Proofs.Credentials.Reread
import ServiceAccess.Proofs.ClientCache.Provenance
import ServiceAccess.Proofs.Connector.Provenance
import ServiceAccess.Proofs.ClientCache.Precedence
import ServiceAccess.Proofs.ClientCache.Sessions
import ServiceAccess.Proofs.ClientCache.Handover
import ServiceAccess.Proofs.Connector.Disconnect
import ServiceAccess.Proofs.ClientCache.Memo
import ServiceAccess.Proofs.Credentials.Identity
import ServiceAccess.Proofs.Connector.Storage
import ServiceAccess.Proofs.Connector.MissingSecrets
import ServiceAccess.Proofs.Credentials.Veiled
import ServiceAccess.Proofs.Routine
import ServiceAccess.Proofs.ClientCache.SideBySide
import ServiceAccess.Proofs.Provider.Discreet
import ServiceAccess.Proofs.Connector.Activity
import ServiceAccess.Proofs.Connector.Twins
import ServiceAccess.Proofs.Connector.Noninterference
import ServiceAccess.Proofs.Connector.Validity
import ServiceAccess.Proofs.Resource.Canonical
import ServiceAccess.Proofs.ClientCache.Settling
import ServiceAccess.Proofs.Registry.History
import ServiceAccess.Proofs.Registry.Assembly
import ServiceAccess.Proofs.Registry.Removal
import ServiceAccess.Proofs.ClientCache.Failing
import ServiceAccess.Proofs.ClientCache.Verdict
import ServiceAccess.Proofs.Connector.Rotation
import ServiceAccess.Proofs.Connector.Renewal
import ServiceAccess.Proofs.ClientCache.Share
import ServiceAccess.Proofs.ClientCache.Isolation
import ServiceAccess.Proofs.Text.Regex
import ServiceAccess.Proofs.Text.Path
import ServiceAccess.Proofs.Resource.Shapes
import ServiceAccess.Proofs.Resource.Repositories
import ServiceAccess.Proofs.Routine.Deeds
import ServiceAccess.Proofs.Provider.Session
import ServiceAccess.Proofs.Provider.Listing
import ServiceAccess.Proofs.Provider.Agreement
import ServiceAccess.Proofs.Credentials.Pattern
import ServiceAccess.Proofs.Provider.Surroundings
import ServiceAccess.Proofs.Provider.EmptyVariables
import ServiceAccess.Proofs.Provider.Logins
import ServiceAccess.Proofs.Connector.Discovery
import ServiceAccess.Proofs.Plugin.Loading
import ServiceAccess.Proofs.Plugin.Entry
import ServiceAccess.Proofs.Plugin.Import
import ServiceAccess.Proofs.ClientCache.Uniform
import ServiceAccess.Proofs.ClientCache.Overdue

import ServiceMessages.Info.HealthCheck
import ServiceMessages.Notify.Anonymity
import ServiceMessages.Notify.Classification
import ServiceMessages.Notify.Confidentiality
import ServiceMessages.Notify.Telemetry
import ServiceMessages.Redis.SingleConnection
import ServiceMessages.RemoteContent.Audit
import ServiceMessages.RemoteContent.CacheLifetime
import ServiceMessages.RemoteContent.Coherence
import ServiceMessages.RemoteContent.Endpoints
import ServiceMessages.RemoteContent.Fidelity
import ServiceMessages.RemoteContent.GroupMembership
import ServiceMessages.RemoteContent.Identity
import ServiceMessages.RemoteContent.Isolation
import ServiceMessages.RemoteContent.Ownership
import ServiceMessages.RemoteContent.ReadYourWrites
import ServiceMessages.RemoteContent.Refinement
import ServiceMessages.RemoteContent.Staleness
import ServiceMessages.RemoteContent.Wiring

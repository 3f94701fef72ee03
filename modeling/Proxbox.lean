import Proxbox.Intent.PostMerge
import Proxbox.Backend.WireIds
import Proxbox.Deletion.Execution
import Proxbox.Encryption.Plaintexts
import Proxbox.Encryption.StaleWrites
import Proxbox.Backend.FastAPIEndpoint
import Proxbox.WebSocket.Wire
import Proxbox.WebSocket.Capability
import Proxbox.Backend.RowIdentity
import Proxbox.Stream.Relay
import Proxbox.Stream.RetryEcho
import Proxbox.Schedule.Replacement
import Proxbox.Schedule.CalendarGrid
import Proxbox.Metrics.Query
import Proxbox.Sync.EndpointBackfill
import Proxbox.Sync.ClusterBinding
import Proxbox.Sync.Staleness
import Proxbox.Sync.CommittedCounts
import Proxbox.Intent.FirewallGate
import Proxbox.Intent.FirewallBodies
import Proxbox.Sync.Ownership
import Proxbox.Sync.BatchResults
import Proxbox.Backend.CredentialFingerprint
import Proxbox.Backend.CredentialAssignments
import Proxbox.Sync.BackendKeyWait
import Proxbox.Schedule.Replay
import Proxbox.Schedule.JobFilter
import Proxbox.Backend.BindingReceipt

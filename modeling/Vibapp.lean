import Vibapp.Lib.Except
import Vibapp.Lib.Dict
import Vibapp.Lib.Json
import Vibapp.Lib.KeyOrder
import Vibapp.Lib.Calendar
import Vibapp.Lib.Agenda
import Vibapp.Lib.Transition
import Vibapp.Lib.Chain
import Vibapp.Lib.Fault
import Vibapp.Scheduler.Civil
import Vibapp.Scheduler.Ledger
import Vibapp.Scheduler.Command
import Vibapp.Scheduler.Due
import Vibapp.Scheduler.Delivery
import Vibapp.Scheduler.Status
import Vibapp.Scheduler.Machine
import Vibapp.Scheduler.Transitions
import Vibapp.Scheduler.Specs
import Vibapp.Scheduler.Refinement
import Vibapp.Scheduler.Runs
import Vibapp.Scheduler.Correspondence
import Vibapp.Scheduler.Currency
import Vibapp.Scheduler.Recurrence
import Vibapp.Scheduler.Integrity
import Vibapp.Scheduler.Chains
import Vibapp.Scheduler.Batches
import Vibapp.Scheduler.Liveness
import Vibapp.Protocol.Json
import Vibapp.Protocol.Equality
import Vibapp.Protocol.Parser
import Vibapp.Protocol.Grammar
import Vibapp.Protocol.ParserSound
import Vibapp.Protocol.ParserComplete
import Vibapp.Protocol.RoundTrip
import Vibapp.Protocol.Admission
import Vibapp.Lib.Ancestry
import Vibapp.Protocol.ViewShape
import Vibapp.ServiceRuntime.UiOutput
import Vibapp.Collaboration.Adapter
import Vibapp.Collaboration.Broker
import Vibapp.Collaboration.Delivery
import Vibapp.Collaboration.Shrink
import Vibapp.Collaboration.Replay
import Vibapp.Lib.VersionedStore
import Vibapp.Protocol.Model
import Vibapp.Protocol.Fields
import Vibapp.Protocol.Manifest
import Vibapp.Protocol.ManifestForm
import Vibapp.Protocol.CrossContract
import Vibapp.Protocol.Admit
import Vibapp.Lib.Regex
import Vibapp.Lib.Verdict
import Vibapp.Lib.Window
import Vibapp.Protocol.JsonSchema
import Vibapp.Protocol.ManifestSchema
import Vibapp.ServiceRuntime.Kv
import Vibapp.ServiceRuntime.KvStore
import Vibapp.ServiceRuntime.KvRuns
import Vibapp.Daemon.Values
import Vibapp.Daemon.Canonical
import Vibapp.Daemon.Verify
import Vibapp.Daemon.Activation
import Vibapp.Daemon.State
import Vibapp.Daemon.Steps
import Vibapp.Daemon.Worker
import Vibapp.Daemon.Frames
import Vibapp.Daemon.Enable
import Vibapp.Daemon.EnableRecovery
import Vibapp.Daemon.EnableAtomic
import Vibapp.Daemon.EnableRuns
import Vibapp.Daemon.Services
import Vibapp.Daemon.Update
import Vibapp.Daemon.UpdateAtomic
import Vibapp.Daemon.UpdateUndo
import Vibapp.Daemon.UpdateRuns
import Vibapp.Daemon.UpdateRecovery
import Vibapp.Daemon.Maintenance
import Vibapp.Daemon.Collection
import Vibapp.Lib.SortedJson
import Vibapp.AppStore.Values
import Vibapp.AppStore.Snapshot
import Vibapp.AppStore.Catalog
import Vibapp.AppStore.Records
import Vibapp.AppStore.Ingest
import Vibapp.AppStore.CatalogRuns
import Vibapp.AppStore.CatalogLaws
import Vibapp.AppStore.Recovery
import Vibapp.Lib.Memory
import Vibapp.Lib.Blocks
import Vibapp.Guest.Allocator
import Vibapp.Guest.FreeList
import Vibapp.Guest.Allocate
import Vibapp.Guest.HeapSpecs
import Vibapp.Guest.HeapRuns
import Vibapp.Launcher.Contract
import Vibapp.Launcher.Service
import Vibapp.Launcher.Records
import Vibapp.Launcher.Calls
import Vibapp.Launcher.Laws
import Vibapp.Launcher.Phases
import Vibapp.Lib.Related
import Vibapp.Builder.PackageDigest
import Vibapp.Builder.DigestAgreement
import Vibapp.ProviderRunner.Adapter
import Vibapp.ProviderRunner.Transfer
import Vibapp.ProviderRunner.Snapshot
import Vibapp.CloudAgent.Task
import Vibapp.CloudAgent.Worker
import Vibapp.CloudAgent.Consent
import Vibapp.Verifier.Quarantine
import Vibapp.Verifier.Promotion
import Vibapp.Verifier.PromotionSpecs
import Vibapp.Verifier.Recheck
import Vibapp.Verifier.Runs
import Vibapp.CloudAgent.Audit
import Vibapp.CloudAgent.LivePath
import Vibapp.CloudAgent.Package
import Vibapp.CloudAgent.Handoff
import Vibapp.CloudAgent.AuditFacts
import Vibapp.Lib.JsonLength
import Vibapp.Builder.Handoff
import Vibapp.Builder.PackageAgreement
import Vibapp.Builder.HandoffAgreement
import Vibapp.Builder.HandoffSize
import Vibapp.Builder.HandoffAccepted
import Vibapp.Lib.Gregorian
import Vibapp.ServiceRuntime.Utc
import Vibapp.Lib.Framing
import Vibapp.Builder.PackagePreimage
import Vibapp.ServiceRuntime.KvMigration
import Vibapp.ServiceRuntime.KvDurable
import Vibapp.Daemon.CrashLoop
import Vibapp.Scheduler.Failures
import Vibapp.Scheduler.Actions
import Vibapp.Scheduler.Snooze
import Vibapp.Scheduler.NextSlot
import Vibapp.Verifier.Values
import Vibapp.Verifier.ManifestSchema
import Vibapp.Verifier.Pipeline
import Vibapp.Verifier.StoreChecks
import Vibapp.Verifier.Record
import Vibapp.Verifier.StorePackage
import Vibapp.Verifier.Snapshot
import Vibapp.Verifier.Ingestible
import Vibapp.AppStore.Paging
import Vibapp.RoomHash.HostInput
import Vibapp.ServiceRuntime.RunLoop
import Vibapp.ServiceRuntime.UiAuthority
import Vibapp.WebClient.PackageRuns
import Vibapp.ServiceRuntime.KvScan
import Vibapp.Scheduler.CivilLaw
import Vibapp.Scheduler.ClaimLaws
import Vibapp.Scheduler.Idempotency

import EybondLocal.Library.StripText
import EybondLocal.Library.PrefixIdentity
import EybondLocal.Library.OrderedDict
import EybondLocal.Library.Execution
import EybondLocal.Library.PythonObject
import EybondLocal.Library.JsonValue
import EybondLocal.Library.OrderedSlices
import EybondLocal.Library.BlockStream
import EybondLocal.Library.Counting
import EybondLocal.Library.IsoTimestamp
import EybondLocal.Library.HookRun
import EybondLocal.Library.PythonText
import EybondLocal.Library.InternetAddress
import EybondLocal.Library.HexText
import EybondLocal.Library.RunRewrite
import EybondLocal.CollectorIdentity
import EybondLocal.SessionRegistry.Effects
import EybondLocal.SessionRegistry.SingleOwner
import EybondLocal.SessionRegistry.Handle
import EybondLocal.SessionRegistry.Frames
import EybondLocal.SessionRegistry.IdentityStability
import EybondLocal.SessionRegistry.Lookups
import EybondLocal.EndpointOperation.Authority
import EybondLocal.EndpointOperation.Exclusivity
import EybondLocal.CollectorRegistry.Model
import EybondLocal.CollectorRegistry.LostUpdates
import EybondLocal.Transport.BinaryFraming
import EybondLocal.Transport.PrefixedReader
import EybondLocal.Transport.ReadLoop
import EybondLocal.Transport.ReadSlices
import EybondLocal.Transport.ReadProgress
import EybondLocal.Transport.StrayReplies
import EybondLocal.Transport.SessionSlot
import EybondLocal.Transport.LiveReader
import EybondLocal.Transport.RequestReply
import EybondLocal.Transport.TcpAdmission
import EybondLocal.Transport.FrameDecoder
import EybondLocal.Transport.Fragmentation
import EybondLocal.Transport.FrameReading
import EybondLocal.Transport.MixedGrammar
import EybondLocal.Transport.AuxiliarySession
import EybondLocal.Transport.AuxiliaryOwnership
import EybondLocal.Payload.ModbusRead
import EybondLocal.Payload.ModbusRecovery
import EybondLocal.Runtime.LinkBaudSweep
import EybondLocal.Runtime.DriverDetection
import EybondLocal.Runtime.SilenceVerdict
import EybondLocal.Support.Masking
import EybondLocal.Support.MaskingSafety
import EybondLocal.Listener.Inventory
import EybondLocal.Listener.Model
import EybondLocal.Listener.Machine
import EybondLocal.Listener.Sections
import EybondLocal.Listener.Tracking
import EybondLocal.Listener.LiveSessions
import EybondLocal.Listener.Routing
import EybondLocal.Listener.TransparentRoute
import EybondLocal.Listener.Watchers
import EybondLocal.Listener.Watching
import EybondLocal.Listener.SocketBytes
import EybondLocal.Listener.HandOver
import EybondLocal.CallbackLedger.Model
import EybondLocal.CallbackLedger.Exclusion
import EybondLocal.CallbackLedger.Lease
import EybondLocal.CallbackLedger.Books
import EybondLocal.RecoveryContract.Model
import EybondLocal.RecoveryContract.FromRecord
import EybondLocal.RecoveryContract.Updates
import EybondLocal.RecoveryContract.RoundTrip
import EybondLocal.RecoveryVerification.Models
import EybondLocal.RecoveryVerification.Terminal
import EybondLocal.RecoveryVerification.Engine
import EybondLocal.RecoveryVerification.Phases
import EybondLocal.RecoveryVerification.Frames
import EybondLocal.RecoveryVerification.Evidence
import EybondLocal.RecoveryVerification.Soundness
import EybondLocal.RecoveryVerification.Transaction
import EybondLocal.RecoveryVerification.Containment
import EybondLocal.CollectorEndpoint.Model
import EybondLocal.CollectorEndpoint.RoundTrip
import EybondLocal.CollectorEndpoint.WriteShape
import EybondLocal.StrategyTransition.CloudRollback
import EybondLocal.StrategyTransition.RecoveryState
import EybondLocal.StrategyTransition.Callback
import EybondLocal.StrategyTransition.WriteAhead
import EybondLocal.EntryMigration.Policy
import EybondLocal.EntryMigration.Preservation
import EybondLocal.CallbackMatching
import EybondLocal.CallbackIdentity.Transaction
import EybondLocal.CallbackIdentity.Ownership
import EybondLocal.Hub.Telemetry
import EybondLocal.Hub.Snapshot
import EybondLocal.Hub.Refresh
import EybondLocal.Hub.Readback
import EybondLocal.Hub.WriteCapability
import EybondLocal.Hub.Confirmation
import EybondLocal.Hub.Assembly
import EybondLocal.Hub.CurrentFacts
import EybondLocal.Admission.Model
import EybondLocal.Admission.Ownership
import EybondLocal.Admission.Completion
import EybondLocal.Admission.Lifecycle
import EybondLocal.Library.WordSearch
import EybondLocal.Library.RunCover
import EybondLocal.Library.JsonWriter
import EybondLocal.ProxyCapture.Trace
import EybondLocal.ProxyCapture.Anonymity
import EybondLocal.Payload.AsciiLine
import EybondLocal.Library.HalfEven
import EybondLocal.Library.DateText
import EybondLocal.Library.SortedItems
import EybondLocal.Library.TrackedReads
import EybondLocal.Library.DerivedFlags
import EybondLocal.Telemetry.Frame
import EybondLocal.Telemetry.History
import EybondLocal.Telemetry.Computations
import EybondLocal.Telemetry.Canonical
import EybondLocal.Telemetry.Projection
import EybondLocal.Capability.Model
import EybondLocal.Capability.Codec
import EybondLocal.Capability.RoundTrip
import EybondLocal.Payload.ModbusWrite
import EybondLocal.Payload.RegisterBank
import EybondLocal.Capability.DeviceWrite
import EybondLocal.Capability.WriteContract
import EybondLocal.Library.JoinedText
import EybondLocal.Library.Groups
import EybondLocal.Library.BoundedLoop
import EybondLocal.Detection.Anchor
import EybondLocal.Detection.Matcher
import EybondLocal.Detection.AnchorAgreement
import EybondLocal.Detection.Catalog
import EybondLocal.Detection.Tree
import EybondLocal.Detection.Selection
import EybondLocal.Detection.Soundness
import EybondLocal.Detection.Leaves
import EybondLocal.Detection.Related
import EybondLocal.Detection.CatalogOrder
import EybondLocal.Detection.Preference
import EybondLocal.Detection.Completeness
import EybondLocal.Detection.Unavailable
import EybondLocal.Detection.Walk
import EybondLocal.Library.Representatives
import EybondLocal.CallbackMatching.Verdict
import EybondLocal.CallbackMatching.Ambiguity
import EybondLocal.CallbackMatching.Evidence
import EybondLocal.SessionRegistry.Coalesce
import EybondLocal.Payload.RequestCodec
import EybondLocal.Telemetry.FlowBalance
import EybondLocal.Transport.HeaderResync
import EybondLocal.RecoveryVerification.MergeContract
import EybondLocal.Library.DelimitedLines
import EybondLocal.Payload.AtLine
import EybondLocal.ProxyCapture.ChunkFilter
import EybondLocal.ProxyCapture.ChunkSplits
import EybondLocal.Library.PromptReader
import EybondLocal.ShadowLearning.MessageFraming
import EybondLocal.ShadowLearning.ExactFraming
import EybondLocal.ShadowLearning.ModbusBackend
import EybondLocal.ShadowLearning.FixedDevice
import EybondLocal.Library.ShiftRegister
import EybondLocal.Payload.Checksum
import EybondLocal.Capability.MaskedField
import EybondLocal.Hub.RecoveryBackoff
import EybondLocal.Library.Approach
import EybondLocal.Runtime.PollScheduler
import EybondLocal.Library.SpanUnion
import EybondLocal.SmgDriver.Schema
import EybondLocal.SmgDriver.CapturePlan
import EybondLocal.SmgDriver.RegisterDecode
import EybondLocal.SmgDriver.OptionalReads
import EybondLocal.Library.ParentWalk
import EybondLocal.Metadata.Inheritance
import EybondLocal.Capability.WriteConfirmation
import EybondLocal.SmgDriver.ReadBack
import EybondLocal.SmgDriver.ReadBackCompleteness
import EybondLocal.Library.NearestPoint
import EybondLocal.Library.ContextDecimal
import EybondLocal.Library.AwareTimestamp
import EybondLocal.Support.HistoryEvidence
import EybondLocal.Support.HistoryCorrelation
import EybondLocal.Support.CorrelationExactness
import EybondLocal.Runtime.RouteLease
import EybondLocal.Runtime.RouteExclusivity
import EybondLocal.Pi30Driver.CommandSupport
import EybondLocal.Pi30Driver.Payloads
import EybondLocal.Pi30Driver.PollCycle
import EybondLocal.Pi30Driver.Reachability
import EybondLocal.Pi30Driver.Verdicts
import EybondLocal.ShortAscii.OptionalReads
import EybondLocal.ShortAscii.Rounds
import EybondLocal.ShortAscii.Freshness
import EybondLocal.Library.DictIndex
import EybondLocal.Detection.CompiledCatalog
import EybondLocal.Detection.CompiledResolution
import EybondLocal.ShadowLearning.LeakSafety

import Pingling.Lib.Collections
import Pingling.Lib.Text
import Pingling.Lib.Json
import Pingling.Lib.Checks
import Pingling.Lib.Traced
import Pingling.Lib.Chain
import Pingling.HostContract.Slot
import Pingling.HostContract.Package
import Pingling.HostContract.Manifest
import Pingling.HostContract.Registry
import Pingling.HostContract.Registration
import Pingling.HostContract.RegistrationOrder
import Pingling.HostContract.MergedContract
import Pingling.HostRuntime.Runtime
import Pingling.HostRuntime.PolicyChain
import Pingling.HostRuntime.SlotChain
import Pingling.HostRuntime.Noninterference
import Pingling.HostRuntime.Observers
import Pingling.HostRuntime.MethodDispatch
import Pingling.HostRuntime.RepeatedBindings
import Pingling.HostRuntime.Loaded
import Pingling.HostRuntime.SinglePlugin
import Pingling.HostRuntime.PhaseByPhase
import Pingling.HostRuntime.Observation
import Pingling.HostRuntime.TraceReplay
import Pingling.Domain.Pipeline
import Pingling.Domain.HookPhases
import Pingling.Domain.WrapCalls
import Pingling.Ipc.Broadcaster
import Pingling.Lib.Positions
import Pingling.Ipc.Delivery
import Pingling.Ipc.ExactlyOnce
import Pingling.Ipc.EventOrder
import Pingling.Domain.Types
import Pingling.Domain.VpnCore
import Pingling.Cores.ProcessCore
import Pingling.Cores.Ownership
import Pingling.Cores.StatusAgreement
import Pingling.Cores.MockCore
import Pingling.Cores.MockRefinement
import Pingling.Cores.Watching
import Pingling.Lib.JsonText
import Pingling.Lib.Replace
import Pingling.Storage.SettingsStorage
import Pingling.Storage.RefusedChange
import Pingling.Storage.CrashSafety
import Pingling.Lib.JsonObject
import Pingling.Lib.Yaml
import Pingling.ProxyDto.Outbound
import Pingling.ProxyDto.Project
import Pingling.ProxyDto.Blocks
import Pingling.ProxyDto.TlsLevel
import Pingling.ProxyDto.Transport
import Pingling.ProxyDto.Verification
import Pingling.Cores.CoreRegistry
import Pingling.HostContract.ContractIndex
import Pingling.Lib.Wire
import Pingling.Lib.WireRecord
import Pingling.HostContract.ManifestJson
import Pingling.HostContract.WellFormedNames
import Pingling.HostContract.Payloads
import Pingling.Domain.SlotPayloads
import Pingling.HostContract.PayloadAgreement
import Pingling.ProxyDto.ClashYaml
import Pingling.Lib.Untagged
import Pingling.ProxyDto.RoundTrip
import Pingling.ProxyDto.Endpoints
import Pingling.HostContract.Wit
import Pingling.HostContract.WitReads
import Pingling.HostContract.WitNames
import Pingling.HostContract.WitUnambiguous
import Pingling.Cores.ActiveCore
import Pingling.Cores.FailedStop
import Pingling.Domain.NestedPipelines
import Pingling.HostContract.Normalisation
import Pingling.HostContract.WitTypes
import Pingling.Config.Strategy
import Pingling.Config.StrategyWire
import Pingling.Lib.OsString
import Pingling.Shared.Which
import Pingling.Cores.AdapterProtocol
import Pingling.Config.ErrorKind
import Pingling.Config.ErrorSurvival
import Pingling.Config.ErrorWrappers
import Pingling.HostRuntime.PatternChoice
import Pingling.Config.ProcessorPipeline
import Pingling.HostContract.ProcessorPipeline
import Pingling.HostContract.PipelineAgreement
import Pingling.Shared.ConfigLoader
import Pingling.Lib.IpAddr
import Pingling.Shared.Netwatch
import Pingling.ClashApi.Client
import Pingling.ClashApi.Exchange
import Pingling.ClashApi.Selectors
import Pingling.Ipc.DaemonRegistry
import Pingling.Ipc.LatestFile
import Pingling.Ipc.Protocol
import Pingling.Ipc.PublishRun
import Pingling.Shared.NetwatchBackend
import Pingling.Shared.NetwatchMirror
import Pingling.Cores.Orphans
import Pingling.HostRuntime.InvocationIds
import Pingling.Ipc.ObserverRuns
import Pingling.Ipc.SlotListener
import Pingling.ClashApi.Snapshots
import Pingling.ClashApi.Stream
import Pingling.Cores.ChildOutput
import Pingling.Lib.Args
import Pingling.PrimitiveHost.Options
import Pingling.PrimitiveHost.Passthrough
import Pingling.ClashApi.Listing

import EmbeddedPus.Library.CallTrace
import EmbeddedPus.Library.Simulation
import EmbeddedPus.Library.ByteOrder
import EmbeddedPus.Library.Buffer
import EmbeddedPus.Library.SlotTable
import EmbeddedPus.Library.WordLoop
import EmbeddedPus.Library.ScanLoop
import EmbeddedPus.Types
import EmbeddedPus.Codec
import EmbeddedPus.Context
import EmbeddedPus.Handler
import EmbeddedPus.TmBuild
import EmbeddedPus.Emission
import EmbeddedPus.Service1
import EmbeddedPus.Service17
import EmbeddedPus.Service5
import EmbeddedPus.Service3
import EmbeddedPus.Service20
import EmbeddedPus.Process
import EmbeddedPus.Operations
import EmbeddedPus.OperationRules
import EmbeddedPus.Verification
import EmbeddedPus.Dispatch
import EmbeddedPus.RegisterHandlers
import EmbeddedPus.Counter
import EmbeddedPus.CounterRun
import EmbeddedPus.SinkFree
import EmbeddedPus.ReportBuilders
import EmbeddedPus.EventReport
import EmbeddedPus.HkReport
import EmbeddedPus.SetValues
import EmbeddedPus.SetCommand
import EmbeddedPus.SetOutcome
import EmbeddedPus.ReportValues
import EmbeddedPus.RoundTrip
import EmbeddedPus.ReportRequest
import EmbeddedPus.Registration
import EmbeddedPus.RegisteredData
import EmbeddedPus.ScanLoop
import EmbeddedPus.TmHeader
import EmbeddedPus.Responses
import EmbeddedPus.TestService
import EmbeddedPus.ReturnedStatus
import EmbeddedPus.NullArguments
import EmbeddedPus.Library.Refinement
import EmbeddedPus.Commanding
import EmbeddedPus.ParameterService
import EmbeddedPus.TelemetryService
import EmbeddedPus.Application
import EmbeddedPus.Obc
import EmbeddedPus.ObcRun
import EmbeddedPus.ApplicationRun
import EmbeddedPus.Library.Interleaving
import EmbeddedPus.SideBySide
import EmbeddedPus.Library.Safety
import EmbeddedPus.Safety
import EmbeddedPus.SafeSession
import EmbeddedPus.Library.Numbering
import EmbeddedPus.Downlink
import EmbeddedPus.Verdicts
import EmbeddedPus.ParameterMemory
import EmbeddedPus.Lifetime

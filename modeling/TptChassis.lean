import TptChassis.AglCan
import TptChassis.Autonomy
import TptChassis.AutonomyCan
import TptChassis.Autosar
import TptChassis.Bus
import TptChassis.Cli
import TptChassis.Diagnostics
import TptChassis.FlightControl
import TptChassis.IsoTp
import TptChassis.Library.Fields
import TptChassis.Library.Interrupts
import TptChassis.Library.Layers
import TptChassis.Library.Machine
import TptChassis.Library.OnesComplement
import TptChassis.Library.Protocols
import TptChassis.Library.Queues
import TptChassis.Library.Rings
import TptChassis.Library.Slices
import TptChassis.Library.Words
import TptChassis.Library.Wrappers
import TptChassis.Ota
import TptChassis.OtaAgl
import TptChassis.OtaFlash
import TptChassis.OtaStorage
import TptChassis.OtaZephyr
import TptChassis.Proofs.AglCrash
import TptChassis.Proofs.AglFiles
import TptChassis.Proofs.AglJournal
import TptChassis.Proofs.AglLoopback
import TptChassis.Proofs.AglRetry
import TptChassis.Proofs.AglSlots
import TptChassis.Proofs.BeamStream
import TptChassis.Proofs.BusGate
import TptChassis.Proofs.ChannelBank
import TptChassis.Proofs.CruiseThrottle
import TptChassis.Proofs.DiagnosticLine
import TptChassis.Proofs.DriveByCan
import TptChassis.Proofs.FlashAreas
import TptChassis.Proofs.FlashRecovery
import TptChassis.Proofs.FlashRefinement
import TptChassis.Proofs.InterlockRefinement
import TptChassis.Proofs.IsoTpFeed
import TptChassis.Proofs.IsoTpFrames
import TptChassis.Proofs.IsoTpLoss
import TptChassis.Proofs.IsoTpReassembly
import TptChassis.Proofs.IsoTpRejection
import TptChassis.Proofs.IsoTpReorder
import TptChassis.Proofs.IsoTpRoundTrip
import TptChassis.Proofs.IsoTpSegments
import TptChassis.Proofs.LaneKeeping
import TptChassis.Proofs.LinChecksum
import TptChassis.Proofs.OtaEffects
import TptChassis.Proofs.OtaErrors
import TptChassis.Proofs.OtaIdempotence
import TptChassis.Proofs.OtaInstall
import TptChassis.Proofs.OtaJournal
import TptChassis.Proofs.OtaPrograms
import TptChassis.Proofs.OtaRecovery
import TptChassis.Proofs.OtaRollback
import TptChassis.Proofs.OtaRunning
import TptChassis.Proofs.OtaVerified
import TptChassis.Proofs.PackagingTool
import TptChassis.Proofs.PortsAgree
import TptChassis.Proofs.SignalDatabase
import TptChassis.Proofs.SignalLens
import TptChassis.Proofs.SignerKeys
import TptChassis.Proofs.SimBuses
import TptChassis.Proofs.SimDelivery
import TptChassis.Proofs.SimLoss
import TptChassis.Proofs.SimTrips
import TptChassis.Proofs.SlotBounds
import TptChassis.Proofs.SomeIpCodec
import TptChassis.Proofs.TelemetryLog
import TptChassis.Proofs.UdsAnswers
import TptChassis.Proofs.UdsEffects
import TptChassis.Proofs.UdsExchange
import TptChassis.Proofs.UdsLiveness
import TptChassis.Proofs.UdsNoninterference
import TptChassis.Proofs.UdsReadBack
import TptChassis.Proofs.UdsResponses
import TptChassis.Proofs.UdsSecurity
import TptChassis.Proofs.UdsWindow
import TptChassis.Safety
import TptChassis.Sim
import TptChassis.SomeIp
import TptChassis.Uds
import TptChassis.VehicleBus

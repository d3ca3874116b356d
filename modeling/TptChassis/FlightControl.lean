import TptChassis.Library.Machine
import TptChassis.Library.Words

/-! The bridge that streams telemetry over a Beam transport, following
`flight-control/src/lib.rs`. -/

namespace TptChassis.FlightControl
open Slices Words

structure TelemetryFrame where
  timestampMs : UInt32
  speedCmps : UInt32
  steerDeciDeg : Int16
  autonomyArmed : Bool
  eventCode : UInt16
deriving DecidableEq, Repr

inductive BeamError where
  | linkDown
  | tooLarge
  | transient
deriving DecidableEq, Repr

/-- The transport of the payloads. Sending may panic and may leave any state it likes. -/
class BeamTransport (T : Type u) where
  send : T → List UInt8 → Checked (Except BeamError Unit × T)

/-- A transport driven by itself. -/
def BeamTransport.machine (T : Type u) [BeamTransport T] : Machine T (List UInt8) (Except BeamError Unit) :=
  ⟨BeamTransport.send⟩

def maxFrameBytes : Nat := 64

/-- The populated slice, and the array it is a slice of. -/
def encodeFrame (frame : TelemetryFrame) (out : Buffer UInt8 maxFrameBytes) :
    Checked (List UInt8 × Buffer UInt8 maxFrameBytes) := do
  let out := (((out.set 0 0x54).set 1 0x50).set 2 0x54).set 3 0x01
  let size : UInt16 := 13
  let out ← out.copy 4 (shortToLeBytes size)
  let off := 6
  let out ← out.copy off (toLeBytes frame.timestampMs)
  let off := off + 4
  let out ← out.copy off (toLeBytes frame.speedCmps)
  let off := off + 4
  let out ← out.copy off (shortToLeBytes frame.steerDeciDeg.toUInt16)
  let off := off + 2
  let out := out.set off frame.autonomyArmed.toUInt8
  let off := off + 1
  let out ← out.copy off (shortToLeBytes frame.eventCode)
  let off := off + 2
  return (← slice out.elements 0 off, out)

structure FlightControlBridge (T : Type u) where
  transport : T
  buf : Buffer UInt8 maxFrameBytes

namespace FlightControlBridge
variable {T : Type u}

def new (transport : T) : FlightControlBridge T := ⟨transport, .fill maxFrameBytes 0⟩

variable [BeamTransport T]

def publish (bridge : FlightControlBridge T) (frame : TelemetryFrame) :
    Checked (Except BeamError Unit × FlightControlBridge T) :=
  (encodeFrame frame bridge.buf).bind fun (payload, buf) => do
    let (result, transport) ← BeamTransport.send bridge.transport payload
    return (result, { transport, buf })

end FlightControlBridge

def FlightControlBridge.machine (T : Type u) [BeamTransport T] :
    Machine (FlightControlBridge T) TelemetryFrame (Except BeamError Unit) :=
  ⟨FlightControlBridge.publish⟩

end TptChassis.FlightControl

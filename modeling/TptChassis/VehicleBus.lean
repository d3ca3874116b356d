import TptChassis.Bus
import TptChassis.Library.Machine
import TptChassis.SomeIp

/-! The interface that the buses share, and the four buses made of a transceiver
and a check of the frames sent: `core/src/bus.rs`, and the second halves of
`core/src/can.rs`, `core/src/lin.rs` and `core/src/someip.rs`. -/

namespace TptChassis.Bus
open Slices SomeIp

universe u

instance : Frame SomeIpMessage SomeIpMessageId where
  id message := message.header.messageId
  len message := someipHeaderLen + message.payloadLen.toNat

/-- The `invalid_frame_err` of `someip.rs`. -/
def invalidMessageErr : Autonomy.Error → BusError := invalidFrameErr

def validateMessage (message : SomeIpMessage) : Except Autonomy.Error Unit :=
  if message.payloadLen.toNat > someipMaxPayload then .error .invalidArgument
  else if message.header.messageType = .request ∧ message.header.messageId.service = 0 then .error .invalidArgument
  else .ok ()

/-- What the transceiver traits have in common. Each method acts on the state
behind the transceiver, which it may share with others, and may panic. -/
structure Transceiver (σ : Type u) (φ : Type) where
  send : σ → φ → Checked (Except BusError Unit × σ)
  recv : σ → Checked (Except BusError φ × σ)
  hasReceived : σ → Bool
  canSend : σ → Bool

structure LinTransceiver (σ : Type u) extends Transceiver σ LinFrame where
  isMaster : σ → Bool

structure VehicleBus (σ : Type u) (φ : Type) where
  transmit : σ → φ → Checked (Except BusError Unit × σ)
  receive : σ → Checked (Except BusError φ × σ)
  canReceive : σ → Bool
  canTransmit : σ → Bool

structure LinBus (σ : Type u) extends VehicleBus σ LinFrame where
  isMaster : σ → Bool

variable {σ : Type u} {φ : Type}

/-- A transceiver behind a check of the frames to be sent. -/
def checkedBus (validate : φ → Except BusError Unit) (transceiver : Transceiver σ φ) : VehicleBus σ φ where
  transmit state frame :=
    match validate frame with
    | .error error => some (.error error, state)
    | .ok () => transceiver.send state frame
  receive := transceiver.recv
  canReceive := transceiver.hasReceived
  canTransmit := transceiver.canSend

def canBus : Transceiver σ CanFrame → VehicleBus σ CanFrame :=
  checkedBus fun frame => frame.validateFrame.mapError invalidFrameErr

def canFdBus : Transceiver σ CanFdFrame → VehicleBus σ CanFdFrame := checkedBus CanFdFrame.validateFdFrame

def linBus (transceiver : LinTransceiver σ) : LinBus σ where
  toVehicleBus := checkedBus (fun frame => frame.validateFrame.mapError invalidFrameErr) transceiver.toTransceiver
  isMaster := transceiver.isMaster

def someIpBus : Transceiver σ SomeIpMessage → VehicleBus σ SomeIpMessage :=
  checkedBus fun message => (validateMessage message).mapError invalidMessageErr

inductive BusCall (φ : Type) where
  | transmit (frame : φ)
  | receive
  | canReceive
  | canTransmit

inductive BusReply (φ : Type) where
  | transmitted (result : Except BusError Unit)
  | received (result : Except BusError φ)
  | answered (answer : Bool)

/-- A bus driven through its interface. -/
def VehicleBus.machine (bus : VehicleBus σ φ) : Machine σ (BusCall φ) (BusReply φ) where
  step state call :=
    match call with
    | .transmit frame => do
      let (result, state) ← bus.transmit state frame
      return (.transmitted result, state)
    | .receive => do
      let (result, state) ← bus.receive state
      return (.received result, state)
    | .canReceive => some (.answered (bus.canReceive state), state)
    | .canTransmit => some (.answered (bus.canTransmit state), state)

/-- A transceiver driven by the same calls, of which it has all four under other names. -/
def Transceiver.machine (transceiver : Transceiver σ φ) : Machine σ (BusCall φ) (BusReply φ) where
  step state call :=
    match call with
    | .transmit frame => do
      let (result, state) ← transceiver.send state frame
      return (.transmitted result, state)
    | .receive => do
      let (result, state) ← transceiver.recv state
      return (.received result, state)
    | .canReceive => some (.answered (transceiver.hasReceived state), state)
    | .canTransmit => some (.answered (transceiver.canSend state), state)

end TptChassis.Bus

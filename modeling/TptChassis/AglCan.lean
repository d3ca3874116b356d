import TptChassis.VehicleBus

/-! The CAN transceiver of `agl/src/can_socket.rs`. Opening a socket never succeeds
there, so every frame takes the path through the loopback queue. -/

namespace TptChassis.AglCan
open Bus

structure AglCanTransceiver where
  iface : String
  loopback : List CanFrame
deriving DecidableEq

namespace AglCanTransceiver

def new (iface : String) : AglCanTransceiver := { iface, loopback := [] }

def send (transceiver : AglCanTransceiver) (frame : CanFrame) : Except BusError Unit × AglCanTransceiver :=
  if transceiver.loopback.length ≥ 64 then (.error .txQueueFull, transceiver)
  else (.ok (), { transceiver with loopback := transceiver.loopback ++ [frame] })

def recv (transceiver : AglCanTransceiver) : Except BusError CanFrame × AglCanTransceiver :=
  match transceiver.loopback with
  | [] => (.error .rxQueueEmpty, transceiver)
  | frame :: rest => (.ok frame, { transceiver with loopback := rest })

def hasReceived (transceiver : AglCanTransceiver) : Bool := !transceiver.loopback.isEmpty
def canSend (transceiver : AglCanTransceiver) : Bool := transceiver.loopback.length < 64

def transceiver : Transceiver AglCanTransceiver CanFrame where
  send state frame := some (send state frame)
  recv state := some (recv state)
  hasReceived := hasReceived
  canSend := canSend

end AglCanTransceiver

/-- The bus over it, as the application drives it. -/
def machine : Machine AglCanTransceiver (BusCall CanFrame) (BusReply CanFrame) :=
  (canBus AglCanTransceiver.transceiver).machine

end TptChassis.AglCan

import TptChassis.Library.Words
import TptChassis.Sim

/-! Autonomous driving over the simulated CAN bus, following `sim/tests/autonomy_can.rs`:
samples go to the stack and commands go to the actuators, each in a frame. Unwrapping
what is not there is a panic. -/

namespace TptChassis.AutonomyCan
open Slices Words Bus Sim Autonomy

/-- A control command as the payload of a CAN frame. -/
def encodeCommand (cmd : ControlCommand) : Checked (Buffer UInt8 5) := do
  let out ← (Buffer.fill 5 0).copy 0 (shortToBeBytes cmd.steerDeciDeg.toUInt16)
  return ((out.set 2 cmd.throttlePct).set 3 cmd.brakePct).set 4 0

/-- The network between sensor, ECU and actuator, and the stack in the ECU. -/
structure Vehicle (S : Type) where
  network : SimCanNetwork
  stack : S

/-- The loop that drains the actuator's queue until the command frame appears. `fuel`
bounds its turns: each but the last takes a frame from the queue. -/
def drain (actuator : Nat) : Nat → SimCanNetwork → Checked (Option CanFrame × SimCanNetwork)
  | 0, _ => none
  | fuel + 1, network => do
    match ← (SimCanNode.bus actuator).receive network with
    | (.error _, network) => return (none, network)
    | (.ok frame, network) => if frame.id.raw = 0x300 then return (some frame, network) else drain actuator fuel network

/-- How many frames wait at a node. -/
def waiting (network : SimCanNetwork) (node : Nat) : Nat := ((network.nodes[node]?).map (·.2.length)).getD 0

/-- `from_be_bytes` of the four bytes from `first` on. -/
def wordAt (data : List UInt8) (first : Nat) : Checked UInt32 := do
  return fromBeBytes (← data[first]?) (← data[first + 1]?) (← data[first + 2]?) (← data[first + 3]?)

variable {S : Type} [AutonomyStack S]

/-- A sample arrives on the sensor's CAN identifier and is fed to the stack. -/
def sense (sensor ecu : Nat) (vehicle : Vehicle S) (value : Int32) (timestamp : TimestampMs) : Checked (Vehicle S) := do
  let payload ← (Buffer.fill 8 0).copy 0 (toBeBytes value.toUInt32)
  let payload ← payload.copy 4 (toBeBytes timestamp)
  let req ← standardFrame 0x200 payload.elements
  let ((), network) ← unwrap (← (SimCanNode.bus sensor).transmit vehicle.network req)
  let (incoming, network) ← unwrap (← (SimCanNode.bus ecu).receive network)
  let data ← incoming.payload
  let offset ← wordAt data 0
  let ts ← wordAt data 4
  match ← AutonomyStack.ingest vehicle.stack { kind := .camera, timestamp := ts, value := offset.toInt32 } with
  | (.ok (), stack) => return { network, stack }
  | (.error _, _) => none

/-- The stack is asked for a command, which goes to the actuator. -/
def command (ecu actuator : Nat) (vehicle : Vehicle S) (state : VehicleState) : Checked (List UInt8 × Vehicle S) := do
  match ← AutonomyStack.nextCommand vehicle.stack state with
  | (.ok (some cmd), stack) =>
    let payload ← encodeCommand cmd
    let frame ← standardFrame 0x300 payload.elements
    let ((), network) ← unwrap (← (SimCanNode.bus ecu).transmit vehicle.network frame)
    let (out, network) ← drain actuator (waiting network actuator + 1) network
    let out ← out
    return (← out.payload, { network, stack })
  | _ => none

inductive DriveEvent where
  | sense (value : Int32) (timestamp : TimestampMs)
  | command (state : VehicleState)

/-- What the actuator is left with after each event. -/
inductive DriveOutcome where
  | sensed
  | commanded (data : List UInt8)

def Vehicle.machine (S : Type) [AutonomyStack S] (sensor ecu actuator : Nat) : Machine (Vehicle S) DriveEvent DriveOutcome where
  step vehicle event :=
    match event with
    | .sense value timestamp => do
      let vehicle ← sense sensor ecu vehicle value timestamp
      return (.sensed, vehicle)
    | .command state => do
      let (data, vehicle) ← command ecu actuator vehicle state
      return (.commanded data, vehicle)

/-- The three nodes on a new network, as the test begins. -/
def Vehicle.new {S : Type} (stack : S) : Vehicle S :=
  let (_, network) := SimCanNetwork.new.node ()
  let (_, network) := network.node ()
  let (_, network) := network.node ()
  { network, stack }

end TptChassis.AutonomyCan

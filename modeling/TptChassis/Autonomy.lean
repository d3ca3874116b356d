import TptChassis.Library.Machine
import TptChassis.Library.Slices

/-! The interface that self-driving stacks implement, and the reference
lane-keeping stack, following `core/src/autonomy.rs`. -/

namespace TptChassis.Autonomy
open Slices

abbrev TimestampMs := UInt32

/-- The core error of `lib.rs`. -/
inductive Error where
  | unsupported
  | resourceExhausted
  | invalidArgument
deriving DecidableEq, Repr

inductive AutonomyError where
  | core (error : Error)
  | inputFull
  | invalidSample
  | notReady
deriving DecidableEq, Repr

inductive SensorKind where
  | camera
  | lidar
  | radar
  | gps
  | odometry
deriving DecidableEq, Repr

structure SensorSample where
  kind : SensorKind
  timestamp : TimestampMs
  value : Int32
deriving DecidableEq, Repr

structure ControlCommand where
  steerDeciDeg : Int16
  throttlePct : UInt8
  brakePct : UInt8
  timestamp : TimestampMs
deriving DecidableEq, Repr

namespace ControlCommand

def maxSteer : Int16 := 300

def clampSteer (steer : Int16) : Int16 :=
  if steer < -maxSteer then -maxSteer else if maxSteer < steer then maxSteer else steer

def new (steerDeciDeg : Int16) (throttlePct brakePct : UInt8) (timestamp : TimestampMs) : ControlCommand :=
  ⟨clampSteer steerDeciDeg, min throttlePct 100, min brakePct 100, timestamp⟩

end ControlCommand

structure VehicleState where
  speedCmps : UInt32
  timestamp : TimestampMs
deriving DecidableEq, Repr

/-- The autonomy plugin contract. A method may panic and may leave any state it
likes; so may `has_control`, which takes `&self`, in the cells of the stack. -/
class AutonomyStack (S : Type u) where
  ingest : S → SensorSample → Checked (Except AutonomyError Unit × S)
  nextCommand : S → VehicleState → Checked (Except AutonomyError (Option ControlCommand) × S)
  hasControl : S → Checked (Bool × S)

inductive StackCall where
  | ingest (sample : SensorSample)
  | nextCommand (state : VehicleState)
  | hasControl
deriving DecidableEq, Repr

inductive StackReply where
  | ingested (result : Except AutonomyError Unit)
  | commanded (result : Except AutonomyError (Option ControlCommand))
  | controls (answer : Bool)

/-- A stack driven through the trait. -/
def machine (S : Type u) [AutonomyStack S] : Machine S StackCall StackReply where
  step stack call :=
    match call with
    | .ingest sample => do
      let (result, stack) ← AutonomyStack.ingest stack sample
      return (.ingested result, stack)
    | .nextCommand state => do
      let (result, stack) ← AutonomyStack.nextCommand stack state
      return (.commanded result, stack)
    | .hasControl => do
      let (answer, stack) ← AutonomyStack.hasControl stack
      return (.controls answer, stack)

structure LaneKeepingStack where
  lastOffsetCm : Option Int32
  lastTimestamp : TimestampMs
  ready : Bool
  gain : Int16
  cruiseCmps : UInt32
deriving DecidableEq, Repr

/-- `i16::saturating_mul` -/
def saturatingMul (first second : Int16) : Int16 :=
  let product := first.toInt * second.toInt
  Int16.ofInt (if product < -32768 then -32768 else if 32767 < product then 32767 else product)

namespace LaneKeepingStack

def new (gain : Int16) (cruiseCmps : UInt32) : LaneKeepingStack := ⟨none, 0, false, gain, cruiseCmps⟩

/-- The product is checked for overflow; the final conversion truncates. -/
def throttle (stack : LaneKeepingStack) (state : VehicleState) : Checked UInt8 :=
  if state.speedCmps < stack.cruiseCmps then
    let deficit := stack.cruiseCmps - state.speedCmps
    if deficit.toNat * 100 < UInt32.size then
      some (deficit * 100 / max stack.cruiseCmps 1).toUInt8
    else none
  else some 0

instance : AutonomyStack LaneKeepingStack where
  ingest stack sample :=
    if sample.kind ≠ .camera ∧ sample.kind ≠ .lidar then
      some (.ok (), stack)
    else
      some (.ok (), { stack with lastOffsetCm := some sample.value, lastTimestamp := sample.timestamp, ready := true })
  nextCommand stack state :=
    match stack.lastOffsetCm with
    | none => some (.ok none, stack)
    | some offset =>
      if ¬ stack.ready then
        some (.ok none, stack)
      else do
        let steer := ControlCommand.clampSteer (saturatingMul offset.toInt16 stack.gain)
        let throttle ← stack.throttle state
        return (.ok (some (.new steer throttle 0 stack.lastTimestamp)), stack)
  hasControl stack := some (stack.ready && stack.lastOffsetCm.isSome, stack)

end LaneKeepingStack
end TptChassis.Autonomy

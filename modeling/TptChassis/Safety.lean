import TptChassis.Autonomy

/-! The kill-switch that gates an autonomy stack, and the telemetry ring that
records its transitions, following `core/src/safety.rs`. -/

namespace TptChassis.Safety
open Slices Autonomy

structure TelemetryRecord where
  timestamp : UInt32
  code : UInt16
  value : UInt32
deriving DecidableEq, Repr

/-- The write position stays inside a ring that has room at all. -/
structure TelemetryRing (N : Nat) where
  buf : Buffer TelemetryRecord N
  head : Nat
  len : Nat
  inside : 0 < N → head < N
  bounded : len ≤ N

namespace TelemetryRing
variable {N : Nat}

def new : TelemetryRing N := ⟨.fill N ⟨0, 0, 0⟩, 0, 0, id, Nat.zero_le N⟩

/-- Records one event, overwriting the oldest if the buffer is full. A ring
without room has no place to index. -/
def push (ring : TelemetryRing N) (record : TelemetryRecord) : Checked (TelemetryRing N) :=
  if indexed : ring.head < N then
    some {
      buf := ring.buf.set ring.head record
      head := (ring.head + 1) % N
      len := if ring.len < N then ring.len + 1 else ring.len
      inside := Nat.mod_lt _
      bounded := by
        split
        · assumption
        · exact ring.bounded }
  else none

theorem push_progress (ring : TelemetryRing N) (record : TelemetryRecord) (room : 0 < N) :
    ∃ pushed, ring.push record = some pushed :=
  ⟨_, dif_pos (ring.inside room)⟩

/-- The stored records from oldest to newest. Positions do not overflow: an array
of records has fewer than half as many as there are sizes. -/
def iter (ring : TelemetryRing N) : Checked (List TelemetryRecord) :=
  let start := if ring.len = N then ring.head else 0
  (List.range ring.len).mapM fun i => ring.buf.elements[(start + i) % N]?

end TelemetryRing

inductive InterlockState where
  | armed
  | disarmed
deriving DecidableEq, Repr

structure Interlock (S : Type u) where
  stack : S
  state : InterlockState
  events : TelemetryRing 8

def telemetryArm : UInt16 := 0xA001
def telemetryDisarm : UInt16 := 0xA002

namespace Interlock
variable {S : Type u}

def new (stack : S) : Interlock S := ⟨stack, .disarmed, .new⟩

def arm (interlock : Interlock S) : Checked (Interlock S) :=
  (interlock.events.push ⟨0, telemetryArm, 1⟩).map fun events => { interlock with state := .armed, events }

def disarm (interlock : Interlock S) : Checked (Interlock S) :=
  (interlock.events.push ⟨0, telemetryDisarm, 1⟩).map fun events => { interlock with state := .disarmed, events }

variable [AutonomyStack S]

def hasControl (interlock : Interlock S) : Checked (Bool × Interlock S) :=
  if interlock.state = .armed then do
    let (answer, stack) ← AutonomyStack.hasControl interlock.stack
    return (answer, { interlock with stack })
  else some (false, interlock)

def ingest (interlock : Interlock S) (sample : SensorSample) :
    Checked (Except AutonomyError Unit × Interlock S) := do
  let (result, stack) ← AutonomyStack.ingest interlock.stack sample
  return (result, { interlock with stack })

def nextCommand (interlock : Interlock S) (state : VehicleState) :
    Checked (Except AutonomyError (Option ControlCommand) × Interlock S) :=
  if interlock.state ≠ .armed then
    some (.ok none, interlock)
  else do
    let (result, stack) ← AutonomyStack.nextCommand interlock.stack state
    return (result, { interlock with stack })

/-- The trait methods repeat the gating instead of calling the methods above. -/
instance : AutonomyStack (Interlock S) where
  ingest interlock sample := do
    let (result, stack) ← AutonomyStack.ingest interlock.stack sample
    return (result, { interlock with stack })
  nextCommand interlock state :=
    if interlock.state ≠ .armed then
      some (.ok none, interlock)
    else do
      let (result, stack) ← AutonomyStack.nextCommand interlock.stack state
      return (result, { interlock with stack })
  hasControl interlock :=
    if interlock.state = .armed then do
      let (answer, stack) ← AutonomyStack.hasControl interlock.stack
      return (answer, { interlock with stack })
    else some (false, interlock)

/-- How a caller reaches a method that both the type and the trait offer. -/
inductive Path where
  | inherent
  | trait
deriving DecidableEq, Repr

end Interlock

inductive InterlockCall where
  | arm
  | disarm
  | ingest (path : Interlock.Path) (sample : SensorSample)
  | nextCommand (path : Interlock.Path) (state : VehicleState)
  | hasControl (path : Interlock.Path)
deriving DecidableEq, Repr

inductive InterlockReply where
  | switched
  | replied (reply : StackReply)

namespace Interlock
variable {S : Type u} [AutonomyStack S]

def ingestBy : Path → Interlock S → SensorSample → Checked (Except AutonomyError Unit × Interlock S)
  | .inherent => ingest
  | .trait => AutonomyStack.ingest

def nextCommandBy :
    Path → Interlock S → VehicleState → Checked (Except AutonomyError (Option ControlCommand) × Interlock S)
  | .inherent => nextCommand
  | .trait => AutonomyStack.nextCommand

def hasControlBy : Path → Interlock S → Checked (Bool × Interlock S)
  | .inherent => hasControl
  | .trait => AutonomyStack.hasControl

def call (interlock : Interlock S) : InterlockCall → Checked (InterlockReply × Interlock S)
  | .arm => do return (.switched, ← interlock.arm)
  | .disarm => do return (.switched, ← interlock.disarm)
  | .ingest path sample => do
    let (result, interlock) ← interlock.ingestBy path sample
    return (.replied (.ingested result), interlock)
  | .nextCommand path state => do
    let (result, interlock) ← interlock.nextCommandBy path state
    return (.replied (.commanded result), interlock)
  | .hasControl path => do
    let (answer, interlock) ← interlock.hasControlBy path
    return (.replied (.controls answer), interlock)

end Interlock

def machine (S : Type u) [AutonomyStack S] : Machine (Interlock S) InterlockCall InterlockReply := ⟨Interlock.call⟩

end TptChassis.Safety

import TptChassis.Autonomy

/-! What the buses share, and the frames of CAN and LIN, following
`core/src/bus.rs`, `core/src/can.rs` and `core/src/lin.rs`. -/

namespace TptChassis.Bus
open Slices

inductive BusError where
  | core (error : Autonomy.Error)
  | txQueueFull
  | rxQueueEmpty
  | invalidFrame
  | busOff
deriving DecidableEq, Repr

/-- What the frames of all buses have in common. -/
class Frame (φ : Type) (Id : outParam Type) where
  id : φ → Id
  len : φ → Nat

def Frame.isEmpty {φ Id : Type} [Frame φ Id] (frame : φ) : Bool := Frame.len frame = 0

/-- How a refused frame is reported; `can.rs` and `lin.rs` each have this function. -/
def invalidFrameErr : Autonomy.Error → BusError
  | .invalidArgument => .invalidFrame
  | other => .core other

def canMaxDlc : Nat := 8

/-- The identifier of a frame: 29 bits when extended, else 11. -/
structure CanId where
  raw : UInt32
  extended : Bool
deriving DecidableEq, Repr

namespace CanId

def standardMax : UInt32 := 0x7FF
def extendedMax : UInt32 := 0x1FFFFFFF

/-- The function `standard`. -/
def newStandard (id : UInt32) : Option CanId := if id ≤ standardMax then some { raw := id, extended := false } else none

/-- The function `extended`. -/
def newExtended (id : UInt32) : Option CanId := if id ≤ extendedMax then some { raw := id, extended := true } else none

end CanId

structure CanFrame where
  id : CanId
  data : Buffer UInt8 canMaxDlc
  len : UInt8
deriving DecidableEq

instance : Frame CanFrame CanId where
  id := CanFrame.id
  len frame := frame.len.toNat

namespace CanFrame

def new (id : CanId) (data : List UInt8) : Checked (Option CanFrame) :=
  if data.length > canMaxDlc then some none
  else do
    let buf ← (Buffer.fill canMaxDlc 0).copy 0 data
    return some { id, data := buf, len := UInt8.ofNat data.length }

/-- The method `data`. -/
def payload (frame : CanFrame) : Checked (List UInt8) := slice frame.data.elements 0 frame.len.toNat

def validateFrame (frame : CanFrame) : Except Autonomy.Error Unit :=
  if Frame.len frame > canMaxDlc then .error .invalidArgument
  else
    let max := if frame.id.extended then CanId.extendedMax else CanId.standardMax
    if frame.id.raw > max then .error .invalidArgument else .ok ()

end CanFrame

def canFdMaxDlc : Nat := 64

structure CanFdFrame where
  id : CanId
  data : Buffer UInt8 canFdMaxDlc
  len : UInt8
deriving DecidableEq

instance : Frame CanFdFrame CanId where
  id := CanFdFrame.id
  len frame := frame.len.toNat

namespace CanFdFrame

def new (id : CanId) (data : List UInt8) : Checked (Option CanFdFrame) :=
  if data.length > canFdMaxDlc then some none
  else do
    let buf ← (Buffer.fill canFdMaxDlc 0).copy 0 data
    return some { id, data := buf, len := UInt8.ofNat data.length }

/-- The method `data`. -/
def payload (frame : CanFdFrame) : Checked (List UInt8) := slice frame.data.elements 0 frame.len.toNat

/-- Reports the error of the bus itself, where `CanFrame.validateFrame` reports one of the core. -/
def validateFdFrame (frame : CanFdFrame) : Except BusError Unit :=
  if Frame.len frame > canFdMaxDlc then .error .invalidFrame
  else
    let max := if frame.id.extended then CanId.extendedMax else CanId.standardMax
    if frame.id.raw > max then .error .invalidFrame else .ok ()

end CanFdFrame

def linMaxDlc : Nat := 8

/-- The unprotected identifier of a frame, of 6 bits. -/
structure LinId where
  raw : UInt8
deriving DecidableEq, Repr

namespace LinId

/-- The constant `MAX`. -/
def maxId : UInt8 := 0x3F

def new (id : UInt8) : Option LinId := if id ≤ maxId then some { raw := id } else none

end LinId

structure LinFrame where
  id : LinId
  data : Buffer UInt8 linMaxDlc
  len : UInt8
deriving DecidableEq

instance : Frame LinFrame LinId where
  id := LinFrame.id
  len frame := frame.len.toNat

namespace LinFrame

def new (id : LinId) (data : List UInt8) : Checked (Option LinFrame) :=
  if data.length > linMaxDlc then some none
  else do
    let buf ← (Buffer.fill linMaxDlc 0).copy 0 data
    return some { id, data := buf, len := UInt8.ofNat data.length }

/-- The method `data`. -/
def payload (frame : LinFrame) : Checked (List UInt8) := slice frame.data.elements 0 frame.len.toNat

/-- One turn of the loop in `checksum`. -/
def addByte (sum : UInt16) (b : UInt8) : Checked UInt16 :=
  if sum.toNat + b.toNat < UInt16.size then
    let sum := sum + b.toUInt16
    some (if sum > 0xFF then sum - 0xFF else sum)
  else none

def checksum (frame : LinFrame) : Checked UInt8 := do
  let sum ← (← frame.payload).foldlM addByte 0
  return ~~~ sum.toUInt8

def validateFrame (frame : LinFrame) : Except Autonomy.Error Unit :=
  if Frame.len frame > linMaxDlc then .error .invalidArgument else .ok ()

end LinFrame
end TptChassis.Bus

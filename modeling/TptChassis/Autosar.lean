import TptChassis.Autonomy

/-! Digital channels in a bank of ports, and COM signals, which are values in bit
ranges of a 64-bit payload, following `core/src/autosar.rs`. -/

namespace TptChassis.Autosar
open Slices
open Autonomy (Error)

/-- The fields are public, so a channel need not have come from `new`. -/
structure DioChannel where
  port : UInt8
  pin : UInt8
deriving DecidableEq, Repr

namespace DioChannel

def new (port pin : UInt8) : Option DioChannel := if pin < 32 then some { port, pin } else none

def bit (channel : DioChannel) : UInt32 := channel.pin.toUInt32

/-- `1 << channel.bit()`, which panics for a pin that no port has. -/
def mask (channel : DioChannel) : Checked UInt32 := if channel.bit < 32 then some (1 <<< channel.bit) else none

end DioChannel

inductive DioLevel where
  | low
  | high
deriving DecidableEq, Repr

namespace DioLevel

def asBool : DioLevel → Bool
  | .high => true
  | .low => false

def fromBool (value : Bool) : DioLevel := if value then .high else .low

end DioLevel

class DioDriver (D : Type u) where
  readChannel : D → DioChannel → Checked (Except Error DioLevel)
  writeChannel : D → DioChannel → DioLevel → Checked (Except Error Unit × D)

structure SimDio where
  ports : Buffer UInt32 16
deriving DecidableEq

namespace SimDio

def new : SimDio := ⟨.fill 16 0⟩

def portWord (dio : SimDio) (port : UInt8) : UInt32 := dio.ports.elements[port.toNat]?.getD 0

instance : DioDriver SimDio where
  readChannel dio channel :=
    match dio.ports.elements[channel.port.toNat]? with
    | none => some (.error .invalidArgument)
    | some word => do
      let mask ← channel.mask
      return .ok (.fromBool (word &&& mask ≠ 0))
  writeChannel dio channel level :=
    match dio.ports.elements[channel.port.toNat]? with
    | none => some (.error .invalidArgument, dio)
    | some word => do
      let mask ← channel.mask
      let word := if level.asBool then word ||| mask else word &&& ~~~ mask
      return (.ok (), { dio with ports := dio.ports.set channel.port.toNat word })

end SimDio

inductive DioCall where
  | read (channel : DioChannel)
  | write (channel : DioChannel) (level : DioLevel)
  | word (port : UInt8)
deriving DecidableEq, Repr

inductive DioReply where
  | level (result : Except Error DioLevel)
  | written (result : Except Error Unit)
  | word (word : UInt32)
deriving DecidableEq

def SimDio.machine : Machine SimDio DioCall DioReply where
  step dio call :=
    match call with
    | .read channel => do return (.level (← DioDriver.readChannel dio channel), dio)
    | .write channel level => do
      let (result, dio) ← DioDriver.writeChannel dio channel level
      return (.written result, dio)
    | .word port => some (.word (dio.portWord port), dio)

/-- `<<` on 64-bit words; a shift by the whole width panics. -/
def shl (word : UInt64) (count : UInt8) : Checked UInt64 :=
  if count < 64 then some (word <<< count.toUInt64) else none

/-- `>>` on 64-bit words, which panics alike. -/
def shr (word : UInt64) (count : UInt8) : Checked UInt64 :=
  if count < 64 then some (word >>> count.toUInt64) else none

structure Signal where
  startBit : UInt8
  length : UInt8
deriving DecidableEq, Repr

namespace Signal

/-- The sum is taken in 32 bits, where that of two bytes always fits. -/
def new (startBit length : UInt8) : Option Signal :=
  if length = 0 ∨ length > 64 ∨ startBit.toUInt32 + length.toUInt32 > 64 then none
  else some { startBit, length }

/-- The mask that `unpack` and `pack` both begin with. A bit that is shifted but
not lost can be diminished by one. -/
def mask (signal : Signal) : Checked UInt64 :=
  if signal.length ≥ 64 then some 0xFFFFFFFFFFFFFFFF
  else do return (← shl 1 signal.length) - 1

def unpack (signal : Signal) (payload : UInt64) : Checked UInt64 := do
  let mask ← signal.mask
  return (← shr payload signal.startBit) &&& mask

/-- There is no payload for a value that does not fit in `length` bits. -/
def pack (signal : Signal) (payload value : UInt64) : Checked (Option UInt64) := do
  let mask ← signal.mask
  if value &&& ~~~ mask ≠ 0 then
    return none
  let cleared := payload &&& ~~~ (← shl mask signal.startBit)
  return some (cleared ||| (← shl value signal.startBit))

end Signal
end TptChassis.Autosar

import TptChassis.Library.Protocols
import TptChassis.Library.Words
import TptChassis.Ota

/-! The OTA storage of `zephyr/src/ota_storage.rs` with the `flash-ota` feature, over
`zephyr/src/ffi.rs`. The C functions are not in the repository; a device stands for
them. -/

namespace TptChassis.Ota
open Slices Words

/-- Result code returned by the C functions; zero is success. -/
abbrev Zerr := Int32

/-- `*mut FlashArea`, as an address. -/
abbrev FlashArea := Nat

def nullArea : FlashArea := 0

/-- The functions of the `extern "C"` block. -/
inductive FlashCall where
  | tptFlashOpen (id : UInt8)
  | tptFlashWrite (area : FlashArea) (off : Nat) (src : List UInt8)
  | tptFlashRead (area : FlashArea) (off : Nat) (dst : List UInt8)
  | tptFlashClose (area : FlashArea)
  | tptStateWrite (bytes : UInt8 × UInt8)
  | tptStateRead
  | tptSlotCapacity
deriving DecidableEq, Repr

/-- The result code, and what a function has left behind the pointer it got. -/
def FlashCall.Reply : FlashCall → Type
  | .tptFlashOpen _ => Zerr × FlashArea
  | .tptFlashWrite .. => Zerr
  | .tptFlashRead _ _ dst => Zerr × Buffer UInt8 dst.length
  | .tptFlashClose _ => Zerr
  | .tptStateWrite _ => Zerr
  | .tptStateRead => Zerr × UInt8 × UInt8
  | .tptSlotCapacity => Nat

abbrev Ffi (α : Type) := Program FlashCall FlashCall.Reply α

namespace Ffi
variable {α : Type}

def ask (call : FlashCall) : Ffi call.Reply := .request call .pure

/-- Opens a flash area, invokes `f`, then always closes the area. -/
def withFlashArea (id : UInt8) (f : FlashArea → Ffi α) : Ffi (Option α) := do
  let (opened, area) ← ask (.tptFlashOpen id)
  if opened ≠ 0 ∨ area = nullArea then return none
  else do
    let r ← f area
    let _ ← ask (.tptFlashClose area)
    return some r

def slotCapacity : Ffi Nat := ask .tptSlotCapacity

def stateWrite (bytes : UInt8 × UInt8) : Ffi (Except Zerr Unit) := do
  let rc : Zerr ← ask (.tptStateWrite bytes)
  return if rc = 0 then .ok () else .error rc

/-- The result, and the two bytes of the caller afterwards. -/
def stateRead : Ffi (Except Zerr Unit × UInt8 × UInt8) := do
  let (rc, bytes) ← ask .tptStateRead
  return (if rc = 0 then .ok () else .error rc, bytes)

end Ffi

abbrev Flash (α : Type) := ExceptT Failure (Program FlashCall FlashCall.Reply) α

namespace ZephyrFlashStorage
variable {α : Type}

def ffi (program : Ffi α) : Flash α := ExceptT.mk (program.bind fun value => .pure (.ok value))

def fail (error : OtaError) : Flash α := throw (.error error)

def checked (result : Checked α) : Flash α :=
  match result with
  | some value => pure value
  | none => throw .panic

def slotCapacity : Flash Nat := ffi Ffi.slotCapacity

def writeSlot (target : Target) (slot : UInt8) (offset : Nat) (data : List UInt8) : Flash Unit := do
  let cap ← ffi Ffi.slotCapacity
  let last ← checked (target.add offset data.length)
  if last > cap then fail .storage
  else do
    match ← ffi (Ffi.withFlashArea slot fun area => Ffi.ask (.tptFlashWrite area offset data)) with
    | none => fail .writeFailed
    | some rc => if rc = (0 : Int32) then return () else fail .writeFailed

/-- The result, and the caller's buffer afterwards: a read that fails may have changed it. -/
def readSlot (target : Target) (slot : UInt8) (offset : Nat) (buf : List UInt8) :
    Flash (Except OtaError Unit × List UInt8) := do
  let cap ← ffi Ffi.slotCapacity
  let last ← checked (target.add offset buf.length)
  if last > cap then return (.error .storage, buf)
  else do
    match ← ffi (Ffi.withFlashArea slot fun area => Ffi.ask (.tptFlashRead area offset buf)) with
    | none => return (.error .storage, buf)
    | some (rc, filled) => return (if rc = (0 : Int32) then .ok () else .error .storage, filled.elements)

def writeState (state : SlotState) : Flash Unit := do
  let bytes ← checked state.encode
  match ← ffi (Ffi.stateWrite bytes) with
  | .error _ => fail .storage
  | .ok () => return ()

def readState : Flash SlotState := do
  match ← ffi Ffi.stateRead with
  | (.error _, _) => fail .storage
  | (.ok (), bytes) =>
    match SlotState.decode bytes.1 bytes.2 with
    | none => fail .storage
    | some state => return state

/-- The storage methods that the engine calls, as programs over the C functions; `none`
is a panic. -/
def perform (target : Target) : (call : StorageCall) → Program FlashCall FlashCall.Reply (Option call.Reply)
  | .slotCapacity => Ffi.slotCapacity.bind fun capacity => .pure (some capacity)
  | .writeSlot slot offset data => (writeSlot target slot offset data).run.bind fun result => .pure (returned result)
  | .writeState state => (writeState state).run.bind fun result => .pure (returned result)
  | .readState => readState.run.bind fun result => .pure (returned result)

/-- All methods of the storage. -/
inductive Method where
  | engine (call : StorageCall)
  | readSlot (slot : UInt8) (offset : Nat) (buf : List UInt8)
deriving DecidableEq, Repr

def Method.Reply : Method → Type
  | .engine call => call.Reply
  | .readSlot .. => Except OtaError Unit × List UInt8

def performMethod (target : Target) : (method : Method) → Program FlashCall FlashCall.Reply (Option method.Reply)
  | .engine call => perform target call
  | .readSlot slot offset buf =>
    (readSlot target slot offset buf).run.bind fun
      | .ok result => .pure (some result)
      | .error _ => .pure none

end ZephyrFlashStorage

section
variable {ε φ : Type} {len : Nat} (signer : SignatureScheme len) (target : Target)

/-- One call of the engine, and what befalls the C functions it calls in turn. -/
structure FlashInput (ε : Type) (len : Nat) where
  call : EngineCall len
  plan : List ε

/-- An engine over the flash. A call has no result when the power goes off in it;
whatever is called next is called after the reboot. -/
def flashEngine (flash : Device φ FlashCall FlashCall.Reply ε) :
    Machine φ (FlashInput ε len) (Option (Except OtaError EngineReply)) where
  step state input :=
    match flash.run ((input.call.program signer).under (ZephyrFlashStorage.perform target)) input.plan state with
    | (none, after) => some (none, after)
    | (some none, _) => none
    | (some (some result), after) => (returned result).map fun output => (some output, after)

end

end TptChassis.Ota

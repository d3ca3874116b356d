import TptChassis.Library.Words
import TptChassis.Ota

/-! The OTA storage of `zephyr/src/ota_storage.rs` without the `flash-ota`
feature: two slots and the journal in RAM. -/

namespace TptChassis.Ota
open Slices Words

def ramSlotCap : Nat := 1024

structure ZephyrOtaStorage where
  slots : Buffer (Buffer UInt8 ramSlotCap) 2
  state : SlotState
deriving DecidableEq

namespace ZephyrOtaStorage

def new : ZephyrOtaStorage := { slots := .fill 2 (.fill ramSlotCap 0), state := .activeSlot0 }

def writeSlot (target : Target) (storage : ZephyrOtaStorage) (slot : UInt8) (offset : Nat) (data : List UInt8) :
    Checked (Except OtaError Unit × ZephyrOtaStorage) :=
  match storage.slots.elements[slot.toNat]? with
  | none => some (.error .storage, storage)
  | some s => do
    let last ← target.add offset data.length
    if last > ramSlotCap then
      return (.error .storage, storage)
    let s ← s.copy offset data
    let storage := { storage with slots := storage.slots.set slot.toNat s }
    return (.ok (), storage)

theorem writeSlot_copies {target : Target} {storage : ZephyrOtaStorage} {slot : UInt8} {s copied : Buffer UInt8 ramSlotCap}
    {offset last : Nat} {data : List UInt8} (held : storage.slots.elements[slot.toNat]? = some s)
    (sum : target.add offset data.length = some last) (fits : last ≤ ramSlotCap)
    (copies : s.copy offset data = some copied) :
    storage.writeSlot target slot offset data =
      some (.ok (), { storage with slots := storage.slots.set slot.toNat copied }) := by
  simp only [writeSlot, held, sum, copies, Option.bind_eq_bind, Option.bind_some, if_neg (Nat.not_lt.mpr fits),
    Option.pure_def]

/-- Copies out of a slot into `buf`; storage is only read. -/
def readSlot (target : Target) (storage : ZephyrOtaStorage) (slot : UInt8) (offset : Nat) (buf : List UInt8) :
    Checked (Except OtaError Unit × List UInt8) :=
  match storage.slots.elements[slot.toNat]? with
  | none => some (.error .storage, buf)
  | some s => do
    let last ← target.add offset buf.length
    if last > ramSlotCap then
      return (.error .storage, buf)
    let buf ← store buf 0 (← slice s.elements offset last)
    return (.ok (), buf)

def perform (target : Target) : (call : StorageCall) → ZephyrOtaStorage → Option (call.Reply × ZephyrOtaStorage)
  | .slotCapacity, storage => some (ramSlotCap, storage)
  | .writeSlot slot offset data, storage => storage.writeSlot target slot offset data
  | .writeState state, storage => some (.ok (), { storage with state })
  | .readState, storage => some (.ok storage.state, storage)

def backend (target : Target) : Backend ZephyrOtaStorage StorageCall StorageCall.Reply := ⟨perform target⟩

end ZephyrOtaStorage
end TptChassis.Ota

import TptChassis.Ota

/-! Two slots and a journal in memory, as in the tests of `core/src/ota.rs`,
made to fail and to lose power. A slot write can stop after any number of bytes;
a journal write happens as a whole or not at all. -/

namespace TptChassis.Ota
open Slices

structure MemStorage (capacity : Nat) where
  slots : Buffer (Buffer UInt8 capacity) 2
  state : SlotState
deriving DecidableEq

/-- What befalls one storage call: nothing, an error, or the end of power. Of a
slot write `reached` bytes are still written; a journal write that fails leaves
the journal as it was, and one that is cut has happened unless `reached` is zero. -/
inductive Fault where
  | none
  | fail (reached : Nat)
  | cut (reached : Nat)
deriving DecidableEq, Repr

/-- The number of bytes a slot write of the given length still writes. -/
def Fault.reach (length : Nat) : Fault → Nat
  | .none => length
  | .fail reached => reached
  | .cut reached => reached

def Fault.answer {α : Type} (result : Except OtaError α) : Fault → Option (Except OtaError α)
  | .none => some result
  | .fail _ => some (.error .storage)
  | .cut _ => Option.none

namespace MemStorage
variable {capacity : Nat}

def new (capacity : Nat) : MemStorage capacity :=
  { slots := .fill 2 (.fill capacity 0), state := .activeSlot0 }

/-- `write_slot`, of which only the first `count` bytes get through. -/
def writeSlot (storage : MemStorage capacity) (slot : UInt8) (offset : Nat) (data : List UInt8) (count : Nat) :
    Except OtaError (MemStorage capacity) :=
  match storage.slots.elements[slot.toNat]? with
  | none => .error .storage
  | some s =>
    if fits : offset + data.length ≤ capacity then
      let written := s.write offset (data.take count) (by rw [List.length_take]; omega)
      .ok { storage with slots := storage.slots.set slot.toNat written }
    else .error .storage

/-- The bytes of a slot; there are none in a slot that does not exist. -/
def image (storage : MemStorage capacity) (slot : UInt8) : List UInt8 :=
  ((storage.slots.elements[slot.toNat]?).map Buffer.elements).getD []

def perform (fault : Fault) (storage : MemStorage capacity) : (call : StorageCall) → Option call.Reply × MemStorage capacity
  | .slotCapacity =>
    match fault with
    | .cut _ => (none, storage)
    | _ => (some capacity, storage)
  | .readState => (fault.answer (.ok storage.state), storage)
  | .writeState state =>
    match fault with
    | .none => (some (.ok ()), { storage with state })
    | .fail _ => (some (.error .storage), storage)
    | .cut 0 => (none, storage)
    | .cut (_ + 1) => (none, { storage with state })
  | .writeSlot slot offset data =>
    match storage.writeSlot slot offset data (fault.reach data.length) with
    | .error error => (fault.answer (.error error), storage)
    | .ok written => (fault.answer (.ok ()), written)

def device (capacity : Nat) : Device (MemStorage capacity) StorageCall StorageCall.Reply Fault where
  quiet := .none
  perform := perform

end MemStorage

section
variable {capacity len : Nat} (signer : SignatureScheme len)

/-- One call of the engine, and the faults its storage calls meet in turn. -/
structure EngineInput (len : Nat) where
  call : EngineCall len
  plan : List Fault
deriving DecidableEq

/-- An engine over the storage. A call has no result when the power goes off in
it; whatever is called next is called after the reboot. -/
def engine (capacity : Nat) :
    Machine (MemStorage capacity) (EngineInput len) (Option (Except OtaError EngineReply)) where
  step storage input :=
    match (MemStorage.device capacity).run (input.call.program signer) input.plan storage with
    | (none, after) => some (none, after)
    | (some (.ok reply), after) => some (some (.ok reply), after)
    | (some (.error (.error error)), after) => some (some (.error error), after)
    | (some (.error .panic), _) => none

/-- The engine when no storage call meets a fault. -/
def calmEngine (capacity : Nat) :
    Machine (MemStorage capacity) (EngineCall len) (Except OtaError EngineReply) where
  step storage call :=
    match (engine signer capacity).step storage ⟨call, []⟩ with
    | some (some output, after) => some (output, after)
    | _ => none

end

end TptChassis.Ota

import TptChassis.Library.Layers
import TptChassis.Library.Words

/-! The A/B update engine of `core/src/ota.rs`. Its only effects are storage
calls, so every method is a program over them. -/

namespace TptChassis.Ota
open Slices

/-- `b"TPT1"` -/
def otaMagic : List UInt8 := [0x54, 0x50, 0x54, 0x31]
def otaFormatVersion : UInt8 := 1
def otaMaxPayload : Nat := 4096
def headerLen : Nat := 4 + 1 + 1 + 4

inductive OtaError where
  | badPackage
  | badSignature
  | payloadTooLarge
  | writeFailed
  | noCandidate
  | invalidState
  | storage
deriving DecidableEq, Repr

inductive SlotState where
  | activeSlot0
  | activeSlot1
  | pending (candidate : UInt8)
  | testing (active fallback : UInt8)
deriving DecidableEq, Repr

/-- Subtraction of bytes, which panics when it underflows. -/
def checkedSub (first second : UInt8) : Checked UInt8 :=
  if second ≤ first then some (first - second) else none

def SlotState.activeSlot : SlotState → Checked UInt8
  | .activeSlot0 => some 0
  | .activeSlot1 => some 1
  | .pending candidate => checkedSub 1 candidate
  | .testing active _ => some active

/-- The two bytes of persistent storage. The second one is computed in a byte. -/
def SlotState.encode : SlotState → Checked (UInt8 × UInt8)
  | .activeSlot0 => some (0x00, 0x00)
  | .activeSlot1 => some (0x00, 0x01)
  | .pending candidate => some (0x01, candidate)
  | .testing active fallback =>
    if active.toNat * 2 + fallback.toNat < UInt8.size then some (0x02, active * 2 + fallback) else none

def SlotState.decode (kind value : UInt8) : Option SlotState :=
  if kind = 0x00 then
    if value = 0 then some .activeSlot0
    else if value = 1 then some .activeSlot1
    else none
  else if kind = 0x01 then
    if value ≤ 1 then some (.pending value) else none
  else if kind = 0x02 then
    let active := value / 2
    let fallback := value % 2
    if active ≤ 1 ∧ fallback ≤ 1 then some (.testing active fallback) else none
  else none

/-- The state in which a slot is active for good: slot 0, or else slot 1. -/
def SlotState.settled (slot : UInt8) : SlotState :=
  if slot = 0 then .activeSlot0 else .activeSlot1

structure UpdatePackage where
  slot : UInt8
  payloadLen : UInt32
deriving DecidableEq, Repr

/-- Writes the header to the front of `out`, which must have room for it. -/
def UpdatePackage.encodeHeader {size : Nat} (package : UpdatePackage) (out : Buffer UInt8 size) :
    Checked (Buffer UInt8 size) := do
  let out ← out.copy 0 otaMagic
  let out ← out.copy 4 [otaFormatVersion]
  let out ← out.copy 5 [package.slot]
  out.copy 6 (Words.toBeBytes package.payloadLen)

/-- Parses a header. There is none under another magic, in another version, or for
another slot than the two. -/
def UpdatePackage.decodeHeader (bytes : List UInt8) : Checked (Option UpdatePackage) :=
  if bytes.length < headerLen then some none
  else do
    if (← slice bytes 0 4) ≠ otaMagic then
      return none
    if (← bytes[4]?) ≠ otaFormatVersion then
      return none
    let slot ← bytes[5]?
    if slot > 1 then
      return none
    let payloadLen := Words.fromBeBytes (← bytes[6]?) (← bytes[7]?) (← bytes[8]?) (← bytes[9]?)
    return some { slot, payloadLen }

/-- What is signed: the header and the payload behind it. -/
def signedBytes (package : UpdatePackage) (payload : List UInt8) : Checked (List UInt8) := do
  let signed ← package.encodeHeader (.fill (headerLen + otaMaxPayload) 0)
  let signed ← signed.copy headerLen payload
  slice signed.elements 0 (headerLen + payload.length)

/-- Signatures are `len` bytes long: 32, or 64 with the `crypto-ed25519` feature. -/
structure SignatureScheme (len : Nat) where
  sign : List UInt8 → Buffer UInt8 len → Buffer UInt8 len
  verify : List UInt8 → Buffer UInt8 len → Bool

structure DemoSigner where
  key : UInt32

namespace DemoSigner

def rotateLeft8 (state : UInt32) : UInt32 := (state <<< 8) ||| (state >>> 24)

/-- Spreads a hash over the bytes of a signature. -/
def spread : Nat → UInt32 → List UInt8
  | 0, _ => []
  | count + 1, state =>
    (state &&& 0xFF).toUInt8 :: spread count (rotateLeft8 state ^^^ ((state >>> 24) * 0x9E3779B9))

theorem length_spread (count : Nat) (state : UInt32) : (spread count state).length = count := by
  induction count generalizing state with
  | zero => rfl
  | succ count ih => rw [spread, List.length_cons, ih]

def hash (signer : DemoSigner) (len : Nat) (data : List UInt8) : Buffer UInt8 len :=
  let h := data.foldl (fun h b => (h ^^^ b.toUInt32) * 0x01000193) (0x811C9DC5 ^^^ signer.key)
  ⟨spread len h, length_spread len h⟩

def scheme (signer : DemoSigner) (len : Nat) : SignatureScheme len where
  sign data _ := signer.hash len data
  verify data signature := signer.hash len data = signature

end DemoSigner

/-- The methods of `OtaStorage` that the engine calls. -/
inductive StorageCall where
  | slotCapacity
  | writeSlot (slot : UInt8) (offset : Nat) (data : List UInt8)
  | writeState (state : SlotState)
  | readState
deriving DecidableEq, Repr

def StorageCall.Reply : StorageCall → Type
  | .slotCapacity => Nat
  | .writeSlot .. => Except OtaError Unit
  | .writeState _ => Except OtaError Unit
  | .readState => Except OtaError SlotState

/-- How an engine method ends without a value. -/
inductive Failure where
  | error (error : OtaError)
  | panic
deriving DecidableEq, Repr

abbrev Engine (α : Type) := ExceptT Failure (Program StorageCall StorageCall.Reply) α

namespace Engine
variable {α : Type} {len : Nat}

def ask (call : StorageCall) : Engine call.Reply := Program.request call fun reply => .pure (.ok reply)

def slotCapacity : Engine Nat := ask .slotCapacity

def writeSlot (slot : UInt8) (offset : Nat) (data : List UInt8) : Engine (Except OtaError Unit) :=
  ask (.writeSlot slot offset data)

def writeState (state : SlotState) : Engine (Except OtaError Unit) := ask (.writeState state)

def readState : Engine (Except OtaError SlotState) := ask .readState

/-- The operator `?` on the result of a storage call. -/
def propagate (result : Except OtaError α) : Engine α := ExceptT.mk (pure (result.mapError .error))

def fail (error : OtaError) : Engine α := throw (.error error)

def checked (result : Checked α) : Engine α :=
  match result with
  | some value => pure value
  | none => throw .panic

def state : Engine SlotState := do propagate (← readState)

def recover : Engine UInt8 := do
  let state ← propagate (← readState)
  let resolved ← match state with
    | .pending candidate => do
      -- The reboot came after staging but before promotion: promote.
      let fallback ← checked (checkedSub 1 candidate)
      pure (SlotState.testing candidate fallback)
    | .testing _ fallback => pure (SlotState.settled fallback)
    | other => pure other
  let active ← checked resolved.activeSlot
  propagate (← writeState resolved)
  return active

def stage (signer : SignatureScheme len) (package : UpdatePackage) (payload : List UInt8)
    (signature : Buffer UInt8 len) : Engine Unit :=
  if payload.length ≠ package.payloadLen.toNat then fail .badPackage
  else do
    let capacity ← slotCapacity
    if payload.length > capacity ∨ payload.length > otaMaxPayload then fail .payloadTooLarge
    else do
      let signed ← checked (signedBytes package payload)
      if ¬ signer.verify signed signature then fail .badSignature
      else do
        propagate ((← writeSlot package.slot 0 payload).mapError fun _ => .writeFailed)
        propagate ((← writeState (.pending package.slot)).mapError fun _ => .storage)

def promote : Engine UInt8 := do
  match ← propagate (← readState) with
  | .pending candidate =>
    let fallback ← checked (checkedSub 1 candidate)
    propagate ((← writeState (.testing candidate fallback)).mapError fun _ => .storage)
    return candidate
  | _ => fail .noCandidate

def commit : Engine UInt8 := do
  match ← propagate (← readState) with
  | .testing active _ =>
    propagate ((← writeState (.settled active)).mapError fun _ => .storage)
    return active
  | _ => fail .invalidState

/-- Returns the slot that was under test, not the one restored. -/
def rollback : Engine UInt8 := do
  match ← propagate (← readState) with
  | .testing active fallback =>
    propagate ((← writeState (.settled fallback)).mapError fun _ => .storage)
    return active
  | _ => fail .invalidState

end Engine

inductive EngineCall (len : Nat) where
  | state
  | recover
  | stage (package : UpdatePackage) (payload : List UInt8) (signature : Buffer UInt8 len)
  | promote
  | commit
  | rollback
deriving DecidableEq

inductive EngineReply where
  | done
  | slot (slot : UInt8)
  | state (state : SlotState)
deriving DecidableEq, Repr

def EngineCall.program {len : Nat} (signer : SignatureScheme len) : EngineCall len → Engine EngineReply
  | .state => do return .state (← Engine.state)
  | .recover => do return .slot (← Engine.recover)
  | .stage package payload signature => do
    Engine.stage signer package payload signature
    return .done
  | .promote => do return .slot (← Engine.promote)
  | .commit => do return .slot (← Engine.commit)
  | .rollback => do return .slot (← Engine.rollback)

/-- The result of a method that did not panic. -/
def returned {α : Type} : Except Failure α → Option (Except OtaError α)
  | .ok value => some (.ok value)
  | .error (.error error) => some (.error error)
  | .error .panic => none

/-- The engine over a storage that meets no fault. -/
def servedEngine {σ : Type} {len : Nat} (signer : SignatureScheme len)
    (storage : Backend σ StorageCall StorageCall.Reply) : Machine σ (EngineCall len) (Except OtaError EngineReply) where
  step state call :=
    match storage.run (call.program signer) state with
    | none => none
    | some (result, after) => (returned result).map fun output => (output, after)

end TptChassis.Ota

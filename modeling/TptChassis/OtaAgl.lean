import TptChassis.Library.Words
import TptChassis.Ota

/-! The OTA storage of `agl/src/ota_storage.rs`, which keeps each slot and the
journal in a file of one directory. Its methods are programs over file
operations, and the power can go off in each of them. Memory does not run out,
and a capacity is one that a `Vec` can have, `isize::MAX` at the most. -/

namespace TptChassis.Ota
open Slices Words

/-- The files of the directory: `slot{}.img` for every slot, and `state.bin`. -/
inductive AglPath where
  | slot (slot : UInt8)
  | state
deriving DecidableEq, Repr

/-- The contents of the files that exist. -/
abbrev Directory := AglPath → Option (List UInt8)

inductive FileCall where
  | pathExists (path : AglPath)
  | fileOpen (path : AglPath)
  | readExact (path : AglPath) (length : Nat)
  | fileCreate (path : AglPath)
  | writeAll (path : AglPath) (data : List UInt8)
deriving DecidableEq, Repr

/-- What a file operation returns; all I/O errors are alike. -/
def FileCall.Reply : FileCall → Type
  | .pathExists _ => Bool
  | .fileOpen _ => Except Unit Unit
  | .readExact _ length => Except Unit (Buffer UInt8 length)
  | .fileCreate _ => Except Unit Unit
  | .writeAll .. => Except Unit Unit

/-- What befalls one file operation: nothing, or the end of power. A write that is
cut has written `reached` bytes; a `create` that is cut has happened unless
`reached` is zero. -/
inductive FileFault where
  | none
  | cut (reached : Nat)
deriving DecidableEq, Repr

def FileFault.answer {α : Type} (result : α) : FileFault → Option α
  | .none => some result
  | .cut _ => Option.none

namespace Directory

def empty : Directory := fun _ => none

def put (directory : Directory) (path : AglPath) (contents : List UInt8) : Directory :=
  fun other => if other = path then some contents else directory other

/-- The first bytes of a file, which must have as many. -/
def readFront (length : Nat) : Option (List UInt8) → Except Unit (Buffer UInt8 length)
  | none => .error ()
  | some contents =>
    if enough : length ≤ contents.length then .ok ⟨contents.take length, List.length_take_of_le enough⟩ else .error ()

/-- Creating a file truncates one that exists; writing goes on behind what was
written since. -/
def perform (fault : FileFault) (directory : Directory) : (call : FileCall) → Option call.Reply × Directory
  | .pathExists path => (fault.answer (directory path).isSome, directory)
  | .fileOpen path => (fault.answer (if (directory path).isSome then .ok () else .error ()), directory)
  | .readExact path length => (fault.answer (readFront length (directory path)), directory)
  | .fileCreate path =>
    match fault with
    | .none => (some (.ok ()), directory.put path [])
    | .cut 0 => (none, directory)
    | .cut (_ + 1) => (none, directory.put path [])
  | .writeAll path data =>
    let written := (directory path).getD []
    match fault with
    | .none => (some (.ok ()), directory.put path (written ++ data))
    | .cut reached => (none, directory.put path (written ++ data.take reached))

def device : Device Directory FileCall FileCall.Reply FileFault where
  quiet := .none
  perform := perform

end Directory

abbrev Agl (α : Type) := ExceptT Failure (Program FileCall FileCall.Reply) α

namespace AglOtaStorage
variable {α : Type}

def ask (call : FileCall) : Agl call.Reply := Program.request call fun reply => .pure (.ok reply)

/-- `map_err(|_| OtaError::Storage)?` -/
def propagate (result : Except Unit α) : Agl α := ExceptT.mk (pure (result.mapError fun _ => .error .storage))

def fail (error : OtaError) : Agl α := throw (.error error)

def checked (result : Checked α) : Agl α :=
  match result with
  | some value => pure value
  | none => throw .panic

/-- Patches the slot's image, or a zeroed one, and writes it back as a whole. -/
def writeSlot (target : Target) (slotCapacity : Nat) (slot : UInt8) (offset : Nat) (data : List UInt8) : Agl Unit := do
  let path := AglPath.slot slot
  let buf ← match ← ask (.pathExists path) with
    | true => do
      propagate (← ask (.fileOpen path))
      propagate (← ask (.readExact path slotCapacity))
    | false => pure (Buffer.fill slotCapacity 0)
  let last ← checked (target.add offset data.length)
  if last > slotCapacity then fail .storage
  else do
    let buf ← checked (buf.copy offset data)
    propagate (← ask (.fileCreate path))
    propagate (← ask (.writeAll path buf.elements))

/-- Fills a buffer of the given length. A slot that was never written reads as zeros. -/
def readSlot (slot : UInt8) (offset length : Nat) : Agl (Buffer UInt8 length) := do
  let path := AglPath.slot slot
  match ← ask (.pathExists path) with
  | false => return .fill length 0
  | true =>
    propagate (← ask (.fileOpen path))
    let buf ← propagate (← ask (.readExact path length))
    let _ := offset
    return buf

def writeState (state : SlotState) : Agl Unit := do
  let path := AglPath.state
  let bytes ← checked state.encode
  propagate (← ask (.fileCreate path))
  propagate (← ask (.writeAll path [bytes.1, bytes.2]))

def readState : Agl SlotState := do
  let path := AglPath.state
  match ← ask (.pathExists path) with
  | false => return .activeSlot0
  | true =>
    propagate (← ask (.fileOpen path))
    let bytes ← propagate (← ask (.readExact path 2))
    match SlotState.decode (bytes.get 0) (bytes.get 1) with
    | none => fail .storage
    | some state => return state

/-- The storage methods as programs; `none` is a panic. -/
def perform (target : Target) (slotCapacity : Nat) :
    (call : StorageCall) → Program FileCall FileCall.Reply (Option call.Reply)
  | .slotCapacity => .pure (some slotCapacity)
  | .writeSlot slot offset data =>
    (writeSlot target slotCapacity slot offset data).run.bind fun result => .pure (returned result)
  | .writeState state => (writeState state).run.bind fun result => .pure (returned result)
  | .readState => readState.run.bind fun result => .pure (returned result)

/-- The storage when no file operation meets a fault. -/
def backend (target : Target) (slotCapacity : Nat) : Backend Directory StorageCall StorageCall.Reply :=
  Directory.device.serve (perform target slotCapacity)

end AglOtaStorage

section
variable {len : Nat} (signer : SignatureScheme len) (target : Target)

/-- One call of the engine, and the faults its file operations meet in turn. -/
structure AglInput (len : Nat) where
  call : EngineCall len
  plan : List FileFault
deriving DecidableEq

/-- An engine over the directory. A call has no result when the power goes off in
it; whatever is called next is called after the reboot. -/
def aglEngine (slotCapacity : Nat) :
    Machine Directory (AglInput len) (Option (Except OtaError EngineReply)) where
  step directory input :=
    match Directory.device.run ((input.call.program signer).under (AglOtaStorage.perform target slotCapacity)) input.plan
      directory with
    | (none, after) => some (none, after)
    | (some none, _) => none
    | (some (some result), after) => (returned result).map fun output => (some output, after)

end

end TptChassis.Ota

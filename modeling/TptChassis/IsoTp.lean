import TptChassis.Library.Machine
import TptChassis.Library.Slices

/-! ISO-TP (ISO 15765-2) segmentation and reassembly over CAN frames, following
`core/src/isotp.rs`. A slice or copy outside its array is a panic. -/

namespace TptChassis.IsoTp
open Slices

def isotpSfMax : Nat := 7
def isotpFfMax : Nat := 6
def isotpCfMax : Nat := 7
/-- Maximum message length (12-bit length field). -/
def isotpMaxMessage : Nat := 4095

inductive IsoTpError where
  | overflow
  | wrongSequence
  | unexpectedFrame
  | invalidPci
  | bufferTooSmall
deriving DecidableEq, Repr

inductive IsoTpEvent where
  | incomplete
  | complete (message : List UInt8)
  | needFlowControl
deriving DecidableEq, Repr

/-- The reassembly state of one conversation; `N` bytes can be buffered. -/
structure IsoTpLink (N : Nat) where
  buf : Buffer UInt8 N
  total : Nat
  filled : Nat
  sn : UInt8
  receiving : Bool
deriving DecidableEq

namespace IsoTpLink
variable {N : Nat}

def new (N : Nat) : IsoTpLink N :=
  { buf := .fill N 0, total := 0, filled := 0, sn := 0, receiving := false }

/-- What one fed frame yields: the result, and the link it leaves behind. -/
abbrev Fed (N : Nat) := Except IsoTpError IsoTpEvent × IsoTpLink N

/-- PCI type 0. The lower nibble is the data length. -/
def feedSingle (link : IsoTpLink N) (first : UInt8) (frame : List UInt8) : Checked (Fed N) := do
  let len := (first &&& 0x0F).toNat
  if len = 0 ∨ len > isotpSfMax ∨ len > frame.length - 1 then
    return (.error .invalidPci, link)
  let data ← slice frame 1 (1 + len)
  let buf ← link.buf.copy 0 data
  let message ← slice buf.elements 0 len
  let link := { link with buf, receiving := false }
  return (.ok (.complete message), link)

/-- The 12-bit total length of a First Frame; a missing second byte reads as zero. -/
def declaredLength (first : UInt8) (frame : List UInt8) : Nat :=
  ((first &&& 0x0F).toNat <<< 8) ||| (frame[1]?.getD 0).toNat

/-- PCI type 1. The total length is followed by up to 6 data bytes. -/
def feedFirst (link : IsoTpLink N) (first : UInt8) (frame : List UInt8) : Checked (Fed N) := do
  let len := declaredLength first frame
  if len < isotpFfMax + 1 ∨ len > N then
    return (.error .overflow, link)
  -- The range `2..` of a one-byte frame is reversed.
  let data ← slice frame 2 frame.length
  let buf ← link.buf.copy 0 data
  let link := { link with buf, filled := data.length, total := len, sn := 1, receiving := true }
  return (.ok .needFlowControl, link)

/-- PCI type 2. The lower nibble is the sequence number. -/
def feedConsecutive (link : IsoTpLink N) (first : UInt8) (frame : List UInt8) : Checked (Fed N) := do
  if link.receiving = false then
    return (.error .unexpectedFrame, link)
  if first &&& 0x0F ≠ link.sn then
    return (.error .wrongSequence, link)
  -- The number advances before the length check, so an overflowing frame keeps it advanced.
  let link := { link with sn := (link.sn + 1) &&& 0x0F }
  let data ← slice frame 1 frame.length
  if link.filled + data.length > link.total then
    return (.error .overflow, link)
  let buf ← link.buf.copy link.filled data
  let link := { link with buf, filled := link.filled + data.length }
  if link.filled ≥ link.total then
    let message ← slice buf.elements 0 link.total
    let link := { link with receiving := false }
    return (.ok (.complete message), link)
  return (.ok .incomplete, link)

def feed (link : IsoTpLink N) (frame : List UInt8) : Checked (Fed N) :=
  match frame with
  | [] => some (.error .invalidPci, link)
  | first :: _ =>
    let pci := first >>> 4
    if pci = 0 then link.feedSingle first frame
    else if pci = 1 then link.feedFirst first frame
    else if pci = 2 then link.feedConsecutive first frame
    else some (.error .invalidPci, link)

def machine (N : Nat) : Machine (IsoTpLink N) (List UInt8) (Except IsoTpError IsoTpEvent) := ⟨feed⟩

end IsoTpLink

/-- The payload of an outgoing CAN frame. -/
abbrev Frame := Buffer UInt8 8

def zeroFrame : Frame := .fill 8 0

/-- The loop over the bytes after the First Frame. -/
def encodeLoop (msg : List UInt8) (idx : Nat) (sn : UInt8) (count : Nat) (out : List Frame) :
    Checked (Except IsoTpError Nat × List Frame) :=
  if more : idx < msg.length then
    if count ≥ out.length then some (.error .bufferTooSmall, out)
    else do
      let chunk := min (msg.length - idx) isotpCfMax
      let data ← slice msg idx (idx + chunk)
      let cf ← zeroFrame.copy 0 [(0x20 : UInt8) ||| sn]
      let cf ← cf.copy 1 data
      encodeLoop msg (idx + chunk) ((sn + 1) &&& 0x0F) (count + 1) (out.set count cf)
  else some (.ok count, out)
termination_by msg.length - idx
decreasing_by simp only [isotpCfMax]; omega

/-- Segments a message into frames written to `out`, and returns their number
together with the output slice as it was left. -/
def encodeMessage (msg : List UInt8) (out : List Frame) : Checked (Except IsoTpError Nat × List Frame) := do
  if msg.length > isotpMaxMessage then
    return (.error .overflow, out)
  if msg.length ≤ isotpSfMax then
    if out.isEmpty then
      return (.error .bufferTooSmall, out)
    let f ← zeroFrame.copy 0 [UInt8.ofNat msg.length]
    let f ← f.copy 1 msg
    return (.ok 1, out.set 0 f)
  let ffLen := min msg.length isotpFfMax
  if out.isEmpty then
    return (.error .bufferTooSmall, out)
  let f ← zeroFrame.copy 0 [(0x10 : UInt8) ||| (UInt8.ofNat (msg.length >>> 8) &&& 0x0F)]
  let f ← f.copy 1 [UInt8.ofNat (msg.length &&& 0xFF)]
  let data ← slice msg 0 ffLen
  let f ← f.copy 2 data
  encodeLoop msg ffLen 1 1 (out.set 0 f)

end TptChassis.IsoTp

import TptChassis.Autosar
import TptChassis.Ota

/-! What `tpt-cli` computes in `ota stage` and `signals`, following
`cli/src/main.rs`. It reads its inputs from files and writes its results to
files; neither is part of the model. -/

namespace TptChassis.Cli
open Slices Ota Autosar

def cmdOtaStage (len : Nat) (bytes : List UInt8) (key : UInt32) (slot : UInt8) : Checked (List UInt8) := do
  let signer : DemoSigner := ⟨key⟩
  let pkg : UpdatePackage := { slot, payloadLen := UInt32.ofNat bytes.length }
  let header ← pkg.encodeHeader (.fill headerLen 0)
  let signed := header.elements ++ bytes
  let sig := (signer.scheme len).sign signed (.fill len 0)
  return header.elements ++ bytes ++ sig.elements

/-- A `[[signal]]` table of the database. A key that is missing, or whose value
has another type, has no value here. -/
structure SignalEntry where
  name : Option String
  startBit : Option Int64
  lengthBits : Option Int64
  canId : Option Int64
deriving DecidableEq

structure SignalConst where
  name : String
  start : UInt8
  length : UInt8
  canId : UInt32
deriving DecidableEq

/-- The integers of the database are narrowed by `as`. -/
def SignalEntry.generate (s : SignalEntry) : SignalConst where
  name := s.name.getD "signal"
  start := (s.startBit.getD 0).toUInt64.toUInt8
  length := (s.lengthBits.getD 0).toUInt64.toUInt8
  canId := (s.canId.getD 0).toUInt64.toUInt32

/-- What `Signal::new` gives for the layout that the constant passes to it. The
emitted file does not build with any entry in it: `Signal::new` is no `const fn`. -/
def SignalConst.layout (s : SignalConst) : Checked Signal := Signal.new s.start s.length

/-- `{:X}` -/
def upperHex (value : Nat) : String := (String.ofList (Nat.toDigits 16 value)).toUpper

def SignalConst.code (s : SignalConst) : String :=
  "/// `" ++ s.name ++ "`: CAN 0x" ++ upperHex s.canId.toNat ++ ", start bit " ++ toString s.start.toNat ++ ", " ++
    toString s.length.toNat ++ " bits.\n" ++
  "pub const " ++ s.name ++ ": Signal = match Signal::new(" ++ toString s.start.toNat ++ ", " ++
    toString s.length.toNat ++ ") \x7b\n    Some(s) => s,\n    None => panic!(\"invalid signal layout for " ++ s.name ++
    "\"),\n\x7d;\n\n"

def cmdSignals (signals : List SignalEntry) : String :=
  "// Generated by `tpt-cli signals` from a signals.toml database.\n" ++ "// Do not edit by hand.\n\n" ++
    "use tpt_chassis_core::autosar::Signal;\n\n" ++
    String.join (signals.map fun s => s.generate.code)

end TptChassis.Cli

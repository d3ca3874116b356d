import TptChassis.Sim
import TptChassis.Uds

/-! Diagnostic requests over the simulated CAN bus: the `exchange` of
`sim/tests/uds_can.rs`, the `send_request` of `core/examples/uds_diagnostics.rs` and
`cmd_diag` of `cli/src/main.rs`. Unwrapping what is not there is a panic. -/

namespace TptChassis.Diagnostics
open Slices Bus Sim Uds

/-- The data of `uds_can.rs`. No more than its eight bytes are ever asked for. -/
structure Calibration where
  values : Buffer UInt8 8

instance : UdsDataProvider Calibration where
  didReadLen _ did := if did = 0x1234 then some 4 else none
  didRead data _ out := overwrite out 0 (data.values.elements.take out.length)
  didWrite data _ bytes :=
    if fits : 0 + bytes.length ≤ 8 then (true, ⟨data.values.write 0 bytes fits⟩) else (false, data)
  didRead_length data did out := by
    apply length_overwrite
    rw [List.length_take]
    omega

/-- The data of `cmd_diag`. It takes for granted that what is written fits, as all
that can arrive in a CAN frame does. -/
structure Prov where
  store : Buffer UInt8 32

instance : UdsDataProvider Prov where
  didReadLen _ did := if did = 0x0001 then some 2 else none
  didRead data _ out := overwrite out 0 (data.store.elements.take out.length)
  didWrite data _ bytes :=
    if fits : 0 + bytes.length ≤ 32 then (true, ⟨data.store.write 0 bytes fits⟩) else (false, data)
  didRead_length data did out := by
    apply length_overwrite
    rw [List.length_take]
    omega

/-- The server, and the network between it and the tester. -/
structure Bench (D : Type) where
  network : SimCanNetwork
  server : UdsServer D

variable {D : Type} [UdsDataProvider D]

/-- One request and its response. A call of a bus that fails ends it with `None`. -/
def exchange (tester ecu : Nat) (bench : Bench D) (request : List UInt8) :
    Checked (Option (Buffer UInt8 8) × Bench D) := do
  let reqFrame ← standardFrame 0x7E0 request
  match ← (SimCanNode.bus tester).transmit bench.network reqFrame with
  | (.error _, network) => return (none, { bench with network })
  | (.ok (), network) =>
    match ← (SimCanNode.bus ecu).receive network with
    | (.error _, network) => return (none, { bench with network })
    | (.ok incoming, network) =>
      let handled ← bench.server.handle (← incoming.payload) (List.replicate 8 0)
      let server := handled.server
      match handled.result with
      | none => return (none, { network, server })
      | some n =>
        let respFrame ← standardFrame 0x7E8 (← slice handled.response 0 n)
        match ← (SimCanNode.bus ecu).transmit network respFrame with
        | (.error _, network) => return (none, { network, server })
        | (.ok (), network) =>
          match ← (SimCanNode.bus tester).receive network with
          | (.error _, network) => return (none, { network, server })
          | (.ok outFrame, network) =>
            let out ← (Buffer.fill 8 0).copy 0 (← outFrame.payload)
            return (some out, { network, server })

/-- A request that must get its response. `ready` is asserted before the server
receives, and `read` takes the response of `n` bytes from its frame. -/
def roundTrip (ready : SimCanNetwork → Bool) (read : List UInt8 → Nat → Checked (List UInt8)) (tester ecu : Nat)
    (bench : Bench D) (req : List UInt8) : Checked (List UInt8 × Bench D) := do
  let frame ← standardFrame 0x7E0 req
  let ((), network) ← unwrap (← (SimCanNode.bus tester).transmit bench.network frame)
  if ready network then
    let (rx, network) ← unwrap (← (SimCanNode.bus ecu).receive network)
    let handled ← bench.server.handle (← rx.payload) (List.replicate 8 0)
    let n ← handled.result
    let out ← standardFrame 0x7E8 (← slice handled.response 0 n)
    let ((), network) ← unwrap (← (SimCanNode.bus ecu).transmit network out)
    let (got, network) ← unwrap (← (SimCanNode.bus tester).receive network)
    return (← read (← got.payload) n, { network, server := handled.server })
  else none

/-- The closure `send_request` of the example. -/
def sendRequest (tester ecu : Nat) : Bench D → List UInt8 → Checked (List UInt8 × Bench D) :=
  roundTrip (SimCanNode.bus ecu).canReceive (fun data _ => some data) tester ecu

/-- One turn of the loop in `cmd_diag`, with the response that it prints. -/
def diagRequest (tester ecu : Nat) : Bench D → List UInt8 → Checked (List UInt8 × Bench D) :=
  roundTrip (fun _ => true) (fun data n => slice data 0 n) tester ecu

inductive BenchEvent where
  | exchange (request : List UInt8)
  | setBusOff (off : Bool)

inductive BenchOutcome where
  | exchanged (response : Option (Buffer UInt8 8))
  | switched

/-- A bench on which requests are exchanged and the bus is switched. -/
def benchMachine (D : Type) [UdsDataProvider D] (tester ecu : Nat) : Machine (Bench D) BenchEvent BenchOutcome where
  step bench event :=
    match event with
    | .exchange request => do
      let (response, bench) ← exchange tester ecu bench request
      return (.exchanged response, bench)
    | .setBusOff off => some (.switched, { bench with network := bench.network.setBusOff off })

/-- A bench on which every request must get its response. -/
def requestMachine (request : Bench D → List UInt8 → Checked (List UInt8 × Bench D)) :
    Machine (Bench D) (List UInt8) (List UInt8) := ⟨request⟩

/-- What `cmd_diag` prints: every request with its response. -/
def cmdDiag : Checked (List (List UInt8 × List UInt8)) := do
  let (tester, network) := SimCanNetwork.new.node ()
  let (ecu, network) := network.node ()
  let server := UdsServer.new (⟨.fill 32 0⟩ : Prov)
  let reqs := [[0x10, 0x03], [0x22, 0x00, 0x01], [0x3E, 0x00]]
  let (responses, _) ← (requestMachine (diagRequest tester ecu)).run { network, server } reqs
  return reqs.zip responses

end TptChassis.Diagnostics

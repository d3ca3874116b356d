import TptChassis.Proofs.BusGate
import TptChassis.Proofs.SimDelivery

/-! One frame on its way from a node of a simulated network to another: how it is
made, sent and taken, and that the rest of the network makes no difference. -/

namespace TptChassis.Proofs.SimTrips
open Slices Bus Sim BusGate SimDelivery

variable {ν φ : Type} {capacity : Nat}

theorem length_marks {before after : Network ν φ} (same : marks after = marks before) :
    after.nodes.length = before.nodes.length := by
  simpa [marks] using congrArg List.length same

/-- A frame sent while the bus is on reaches the other node if that has room. -/
theorem send_reaches {network : Network ν φ} {sender other : Nat} (frame : φ) (on : network.down = false)
    (attached : sender < network.nodes.length) (present : other < network.nodes.length) (apart : other ≠ sender)
    (room : (queue network other).length < capacity) :
    ∃ after, network.send capacity sender frame = (.ok (), after) ∧ queue after other = queue network other ++ [frame] ∧
      queue after sender = queue network sender ∧ after.down = false ∧ after.nodes.length = network.nodes.length := by
  have conducts := @send_conducts _ _ capacity _ _ frame attached
  generalize sent : network.send capacity sender frame = result at conducts
  obtain ⟨answer, after⟩ := result
  cases conducts with
  | sent _ _ delivered kept same still =>
    exact ⟨after, rfl, delivered other apart present room, kept sender (.inl rfl), still.trans on, length_marks same⟩
  | refused _ off => cases on.symm.trans off

theorem send_refused {network : Network ν φ} (sender : Nat) (frame : φ) (off : network.down = true) :
    network.send capacity sender frame = (.error .busOff, network) := if_pos off

theorem recv_takes {network : Network ν φ} {node : Nat} {frame : φ} {rest : List φ}
    (attached : node < network.nodes.length) (waiting : queue network node = frame :: rest) :
    ∃ after, network.recv node = (.ok frame, after) ∧ queue after node = rest ∧
      (∀ other, other ≠ node → queue after other = queue network other) ∧ after.down = network.down ∧
      after.nodes.length = network.nodes.length := by
  have conducts := @recv_conducts _ _ 0 network node attached
  generalize taken : network.recv node = result at conducts
  obtain ⟨answer, after⟩ := result
  cases conducts with
  | received _ found kept same still =>
    obtain ⟨rfl, left⟩ := List.cons.inj (waiting.symm.trans found)
    exact ⟨after, rfl, left.symm, kept, still, length_marks same⟩
  | empty _ nothing => cases waiting.symm.trans nothing

theorem frame_built (id : CanId) {data : List UInt8} (short : data.length ≤ canMaxDlc) :
    ∃ frame, CanFrame.new id data = some (some frame) ∧ frame.id = id ∧ frame.len.toNat = data.length ∧
      frame.payload = some data := by
  obtain ⟨copied, done, front⟩ := Buffer.copy_fill (0 : UInt8) short
  have small : (UInt8.ofNat data.length).toNat = data.length := by
    rw [UInt8.toNat_ofNat']
    simp only [canMaxDlc] at short
    omega
  refine ⟨⟨id, copied, UInt8.ofNat data.length⟩, ?_, rfl, small, ?_⟩
  · rw [CanFrame.new, if_neg (Nat.not_lt.mpr short), done]
    rfl
  · rw [CanFrame.payload, small]
    exact front

theorem frame_long (id : CanId) {data : List UInt8} (long : canMaxDlc < data.length) :
    CanFrame.new id data = some none := if_pos long

theorem standardFrame_eq (raw : UInt32) (small : raw ≤ CanId.standardMax) {data : List UInt8}
    (short : data.length ≤ canMaxDlc) :
    ∃ frame, standardFrame raw data = some frame ∧ ValidCan frame ∧ frame.payload = some data ∧ frame.id.raw = raw := by
  obtain ⟨frame, built, named, length, carries⟩ := frame_built ⟨raw, false⟩ short
  refine ⟨frame, ?_, ?_, carries, congrArg CanId.raw named⟩
  · rw [standardFrame, CanId.newStandard, if_pos small]
    exact congrArg (Option.bind · id) built
  · exact ⟨length ▸ short, named ▸ small⟩

theorem standardFrame_long {raw : UInt32} (small : raw ≤ CanId.standardMax) {data : List UInt8}
    (long : canMaxDlc < data.length) : standardFrame raw data = none := by
  rw [standardFrame, CanId.newStandard, if_pos small]
  exact congrArg (Option.bind · id) (frame_long ⟨raw, false⟩ long)

theorem transmit_eq (node : Nat) (network : SimCanNetwork) {frame : CanFrame} (valid : ValidCan frame) :
    (SimCanNode.bus node).transmit network frame = some (network.send simRxQueueLen node frame) := by
  have passes := canFrame_checks frame
  rw [if_pos valid] at passes
  simp only [SimCanNode.bus, canBus, checkedBus, passes]
  rfl

theorem receive_eq (node : Nat) (network : SimCanNetwork) : (SimCanNode.bus node).receive network = some (network.recv node) := rfl

end TptChassis.Proofs.SimTrips

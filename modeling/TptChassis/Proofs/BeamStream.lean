import TptChassis.FlightControl

/-! What the bridge hands to its transport: for each frame published a payload of its
own, whatever the reused buffer held before, from which the frame can be read back. -/

namespace TptChassis.Proofs.BeamStream
open Slices Words FlightControl

/-- The payload of a frame. -/
def wire (frame : TelemetryFrame) : List UInt8 :=
  [0x54, 0x50, 0x54, 0x01] ++ shortToLeBytes 13 ++ toLeBytes frame.timestampMs ++ toLeBytes frame.speedCmps ++
    shortToLeBytes frame.steerDeciDeg.toUInt16 ++ [frame.autonomyArmed.toUInt8] ++ shortToLeBytes frame.eventCode

/-- How the receiver of a payload reads it, by the layout that the header announces. -/
def readFrame : List UInt8 → Option TelemetryFrame
  | [0x54, 0x50, 0x54, 0x01, 13, 0, t0, t1, t2, t3, s0, s1, s2, s3, d0, d1, armed, e0, e1] =>
    if armed ≤ 1 then
      some {
        timestampMs := fromLeBytes t0 t1 t2 t3
        speedCmps := fromLeBytes s0 s1 s2 s3
        steerDeciDeg := (shortFromLeBytes d0 d1).toInt16
        autonomyArmed := armed = 1
        eventCode := shortFromLeBytes e0 e1 }
    else none
  | _ => none

theorem readFrame_wire (frame : TelemetryFrame) : readFrame (wire frame) = some frame := by
  obtain ⟨timestampMs, speedCmps, steerDeciDeg, autonomyArmed, eventCode⟩ := frame
  have flag : autonomyArmed.toUInt8 ≤ 1 ∧ decide (autonomyArmed.toUInt8 = 1) = autonomyArmed := by
    cases autonomyArmed <;> decide
  refine (if_pos flag.1).trans (congrArg some ?_)
  rw [fromLeBytes_toLeBytes, fromLeBytes_toLeBytes, shortFromLeBytes_toLeBytes, shortFromLeBytes_toLeBytes, flag.2]
  rfl

theorem encodeFrame_eq (frame : TelemetryFrame) (out : Buffer UInt8 maxFrameBytes) :
    ∃ left, encodeFrame frame out = some (wire frame, left) := by
  have first := out.set_extends [] 0x54 (by decide) rfl
  have second := (out.set 0 0x54).set_extends _ 0x50 (by decide) first
  have third := ((out.set 0 0x54).set 1 0x50).set_extends _ 0x54 (by decide) second
  have magic := (((out.set 0 0x54).set 1 0x50).set 2 0x54).set_extends _ 0x01 (by decide) third
  obtain ⟨sized, size, held⟩ :=
    Buffer.copy_extends ((((out.set 0 0x54).set 1 0x50).set 2 0x54).set 3 0x01) _ (shortToLeBytes 13)
      (Nat.le_of_ble_eq_true rfl) magic
  obtain ⟨stamped, timestamp, held⟩ := Buffer.copy_extends _ _ (toLeBytes frame.timestampMs) (Nat.le_of_ble_eq_true rfl) held
  obtain ⟨sped, speed, held⟩ := Buffer.copy_extends _ _ (toLeBytes frame.speedCmps) (Nat.le_of_ble_eq_true rfl) held
  obtain ⟨steered, steer, held⟩ :=
    Buffer.copy_extends _ _ (shortToLeBytes frame.steerDeciDeg.toUInt16) (Nat.le_of_ble_eq_true rfl) held
  have armed := steered.set_extends _ frame.autonomyArmed.toUInt8 (Nat.le_of_ble_eq_true rfl) held
  obtain ⟨done, event, held⟩ := Buffer.copy_extends _ _ (shortToLeBytes frame.eventCode) (Nat.le_of_ble_eq_true rfl) armed
  refine ⟨done, ?_⟩
  change Buffer.copy _ 4 _ = some sized at size
  change sized.copy 6 _ = some stamped at timestamp
  change stamped.copy (6 + 4) _ = some sped at speed
  change sped.copy (6 + 4 + 4) _ = some steered at steer
  change (steered.set (6 + 4 + 4 + 2) _).copy (6 + 4 + 4 + 2 + 1) _ = some done at event
  have inside : 6 + 4 + 4 + 2 + 1 + 2 ≤ done.elements.length := by
    rw [done.sized]
    decide
  change done.elements.take (6 + 4 + 4 + 2 + 1 + 2) = wire frame at held
  simp only [encodeFrame, Option.bind_eq_bind, Option.pure_def]
  rw [size, Option.bind_some, timestamp, Option.bind_some, speed, Option.bind_some, steer, Option.bind_some, event,
    Option.bind_some, slice_front inside, held, Option.bind_some]

/-- On any transport, and from any contents of the buffer, publishing frames is sending
their payloads: one for each frame, of nineteen bytes, that reads back as the frame. The
bridge answers as the transport does, and panics only where that does. -/
theorem bridge_streams {T : Type u} [BeamTransport T] (bridge : FlightControlBridge T) (frames : List TelemetryFrame) :
    ∃ payloads, payloads.map readFrame = frames.map some ∧ (∀ payload ∈ payloads, payload.length = 19) ∧
      ((FlightControlBridge.machine T).run bridge frames).map (fun result => (result.1, result.2.transport)) =
        (BeamTransport.machine T).run bridge.transport payloads := by
  refine ⟨frames.map wire, ?_, ?_, ?_⟩
  · rw [List.map_map]
    exact List.map_congr_left fun frame _ => readFrame_wire frame
  · intro payload member
    obtain ⟨frame, _, rfl⟩ := List.mem_map.mp member
    rfl
  · apply Machine.run_view FlightControlBridge.transport wire
    intro bridge frame
    obtain ⟨left, encoded⟩ := encodeFrame_eq frame bridge.buf
    simp only [FlightControlBridge.machine, BeamTransport.machine, FlightControlBridge.publish, encoded, Option.bind_some]
    cases BeamTransport.send bridge.transport (wire frame) with
    | none => rfl
    | some result => rfl

end TptChassis.Proofs.BeamStream

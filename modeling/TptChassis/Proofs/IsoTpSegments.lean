import TptChassis.IsoTp

/-! The frames a message is cut into. The encoder's loop writes exactly this
list, whatever the output slice held, or runs out of room for it. -/

namespace TptChassis.Proofs.IsoTpSegments
open IsoTp Slices

def padded (size : Nat) (data : List UInt8) : List UInt8 := data ++ List.replicate (size - data.length) 0

def singleFrame (msg : List UInt8) : List UInt8 := UInt8.ofNat msg.length :: padded isotpSfMax msg

def firstFrame (msg : List UInt8) : List UInt8 :=
  ((0x10 : UInt8) ||| (UInt8.ofNat (msg.length >>> 8) &&& 0x0F)) :: UInt8.ofNat (msg.length &&& 0xFF) :: msg.take isotpFfMax

/-- Consecutive Frames with rising sequence numbers, one for each piece of data. -/
def consecutiveFrames (sn : UInt8) : List (List UInt8) → List (List UInt8)
  | [] => []
  | data :: rest => ((0x20 ||| sn) :: data) :: consecutiveFrames ((sn + 1) &&& 0x0F) rest

def pieces (rest : List UInt8) : List (List UInt8) := (chunks isotpCfMax rest).map (padded isotpCfMax)

def segments (msg : List UInt8) : List (List UInt8) :=
  if msg.length ≤ isotpSfMax then [singleFrame msg]
  else firstFrame msg :: consecutiveFrames 1 (pieces (msg.drop isotpFfMax))

theorem segments_short {msg : List UInt8} (short : msg.length ≤ 7) : segments msg = [singleFrame msg] := if_pos short

theorem segments_long {msg : List UInt8} (long : 7 < msg.length) :
    segments msg = firstFrame msg :: consecutiveFrames 1 (pieces (msg.drop 6)) :=
  if_neg (Nat.not_le_of_lt long)

theorem length_consecutiveFrames (sn : UInt8) (data : List (List UInt8)) :
    (consecutiveFrames sn data).length = data.length := by
  induction data generalizing sn with
  | nil => rfl
  | cons first rest ih => simp only [consecutiveFrames, List.length_cons, ih]

private theorem pieces_cons {rest : List UInt8} (more : 0 < rest.length) :
    pieces rest = padded isotpCfMax (rest.take isotpCfMax) :: pieces (rest.drop isotpCfMax) := by
  simp only [pieces]
  rw [chunks, dif_pos ⟨Nat.succ_pos 6, more⟩, List.map_cons]

private theorem pieces_nil {rest : List UInt8} (done : rest.length = 0) : pieces rest = [] := by
  simp only [pieces]
  rw [chunks, dif_neg (by omega), List.map_nil]

private theorem zeroFrame_elements : zeroFrame.elements = 0 :: List.replicate 7 0 := rfl

private theorem frame_copies (first : UInt8) (data : List UInt8) (short : data.length ≤ 7) :
    ∃ header frame, zeroFrame.copy 0 [first] = some header ∧ header.copy 1 data = some frame ∧
      frame.elements = first :: padded 7 data := by
  have one : 0 + [first].length ≤ 8 := Nat.le_of_ble_eq_true rfl
  have rest : 1 + data.length ≤ 8 := by omega
  obtain ⟨header, copied, headerIs⟩ := Buffer.copy_eq zeroFrame one
  obtain ⟨frame, filled, frameIs⟩ := Buffer.copy_eq header rest
  refine ⟨header, frame, copied, filled, ?_⟩
  have opened : header.elements = first :: List.replicate 7 0 := by
    rw [headerIs, zeroFrame_elements]
    rfl
  rw [frameIs, opened, overwrite, Nat.add_comm 1, List.drop_succ_cons, List.drop_replicate]
  rfl

private theorem firstFrame_copies (high low : UInt8) {data : List UInt8} (six : data.length = 6) :
    ∃ first second frame, zeroFrame.copy 0 [high] = some first ∧ first.copy 1 [low] = some second ∧
      second.copy 2 data = some frame ∧ frame.elements = high :: low :: data := by
  obtain ⟨first, second, high', low', elements⟩ := frame_copies high [low] (by simp)
  have rest : 2 + data.length ≤ 8 := by omega
  obtain ⟨frame, filled, frameIs⟩ := Buffer.copy_eq second rest
  refine ⟨first, second, frame, high', low', filled, ?_⟩
  rw [frameIs, elements]
  simp [overwrite, padded, six]

/-- What the loop leaves: the frames of the remaining bytes, written from
`count` on, or an error when they do not all fit. -/
theorem encodeLoop_writes (msg : List UInt8) (idx : Nat) (sn : UInt8) (count : Nat) (out : List Frame)
    (room : count ≤ out.length) :
    ∃ result written, encodeLoop msg idx sn count out = some (result, written) ∧
      if count + (consecutiveFrames sn (pieces (msg.drop idx))).length ≤ out.length then
        result = .ok (count + (consecutiveFrames sn (pieces (msg.drop idx))).length) ∧
        written.map Buffer.elements =
          overwrite (out.map Buffer.elements) count (consecutiveFrames sn (pieces (msg.drop idx)))
      else result = .error .bufferTooSmall := by
  rw [encodeLoop]
  by_cases more : idx < msg.length
  · have some : 0 < (msg.drop idx).length := by
      simp only [List.length_drop]
      omega
    rw [dif_pos more, pieces_cons some, consecutiveFrames, List.length_cons]
    by_cases full : count ≥ out.length
    · refine ⟨_, _, if_pos full, ?_⟩
      rw [if_neg (by omega)]
    · have chunk : (msg.drop idx).take (min (msg.length - idx) isotpCfMax) = (msg.drop idx).take isotpCfMax := by
        simp [Nat.min_comm]
      have short : ((msg.drop idx).take isotpCfMax).length ≤ 7 := by
        simp only [List.length_take, isotpCfMax]
        omega
      obtain ⟨header, frame, first, filled, elements⟩ := frame_copies (0x20 ||| sn) _ short
      have next : (msg.drop idx).drop isotpCfMax = msg.drop (idx + min (msg.length - idx) isotpCfMax) := by
        rw [List.drop_drop]
        by_cases last : msg.length - idx ≤ isotpCfMax
        · rw [List.drop_eq_nil_of_le (by omega), List.drop_eq_nil_of_le (by omega)]
        · rw [Nat.min_eq_right (by omega)]
      obtain ⟨result, written, looped, spec⟩ := encodeLoop_writes msg (idx + min (msg.length - idx) isotpCfMax)
        ((sn + 1) &&& 0x0F) (count + 1) (out.set count frame) (by simp only [List.length_set]; omega)
      refine ⟨result, written, ?_, ?_⟩
      · rw [if_neg full]
        dsimp only
        rw [slice_eq (by omega) (by omega), Nat.add_sub_cancel_left, chunk]
        simp only [Option.bind_eq_bind, Option.bind_some, first, filled, looped]
      · rw [← next, List.map_set, List.length_set] at spec
        rw [elements, overwrite_set _ (by simp only [List.length_map]; omega)] at spec
        rw [Nat.add_comm (List.length _) 1, ← Nat.add_assoc]
        exact spec
  · rw [dif_neg more, pieces_nil (by simp only [List.length_drop]; omega)]
    refine ⟨_, _, rfl, ?_⟩
    simp [consecutiveFrames, room, overwrite_nil]
termination_by msg.length - idx
decreasing_by
  simp only [isotpCfMax]
  omega

private theorem single_writes {msg : List UInt8} (short : msg.length ≤ isotpSfMax) (out : List Frame) :
    ∃ result written, encodeMessage msg out = some (result, written) ∧
      if [singleFrame msg].length ≤ out.length then
        result = .ok 1 ∧ written.map Buffer.elements = overwrite (out.map Buffer.elements) 0 [singleFrame msg]
      else result = .error .bufferTooSmall := by
  have bounded : ¬ msg.length > isotpMaxMessage := by
    simp only [isotpSfMax, isotpMaxMessage] at short ⊢
    omega
  simp only [encodeMessage, if_neg bounded, if_pos short, Option.bind_eq_bind, Option.pure_def]
  cases out with
  | nil => exact ⟨_, _, rfl, rfl⟩
  | cons first rest =>
    obtain ⟨header, frame, opened, filled, elements⟩ := frame_copies (UInt8.ofNat msg.length) msg short
    refine ⟨.ok 1, (first :: rest).set 0 frame, by simp [opened, filled], ?_⟩
    simp [overwrite, elements, singleFrame, isotpSfMax]

private theorem multi_writes {msg : List UInt8} (long : ¬ msg.length ≤ isotpSfMax)
    (bounded : ¬ msg.length > isotpMaxMessage) (out : List Frame) :
    ∃ result written, encodeMessage msg out = some (result, written) ∧
      if (segments msg).length ≤ out.length then
        result = .ok (segments msg).length ∧
        written.map Buffer.elements = overwrite (out.map Buffer.elements) 0 (segments msg)
      else result = .error .bufferTooSmall := by
  have six : min msg.length isotpFfMax = isotpFfMax := by
    simp only [isotpSfMax, isotpFfMax] at long ⊢
    omega
  have data : (msg.take isotpFfMax).length = 6 := by
    rw [List.length_take, Nat.min_comm, six]
    rfl
  simp only [encodeMessage, if_neg bounded, if_neg long, Option.bind_eq_bind, Option.pure_def, six]
  simp only [segments, if_neg long, List.length_cons]
  cases out with
  | nil => exact ⟨_, _, rfl, by simp⟩
  | cons first rest =>
    obtain ⟨header, second, frame, high, low, filled, elements⟩ :=
      firstFrame_copies ((0x10 : UInt8) ||| (UInt8.ofNat (msg.length >>> 8) &&& 0x0F)) (UInt8.ofNat (msg.length &&& 0xFF)) data
    obtain ⟨result, written, looped, spec⟩ :=
      encodeLoop_writes msg isotpFfMax 1 1 ((first :: rest).set 0 frame) (by simp)
    refine ⟨result, written, ?_, ?_⟩
    · rw [if_neg (by simp)]
      simp only [high, low, Option.bind_some]
      rw [slice_front (by omega), Option.bind_some, filled, Option.bind_some, looped]
    · rw [List.map_set, List.length_set] at spec
      rw [elements, overwrite_set _ (by simp)] at spec
      rw [Nat.add_comm (List.length _) 1, firstFrame]
      exact spec

/-- The encoder writes the message's segments from the start of the output
slice, and refuses exactly the messages that are too long for the length field
or have more segments than the slice has frames. -/
theorem encodeMessage_writes (msg : List UInt8) (out : List Frame) :
    ∃ result written, encodeMessage msg out = some (result, written) ∧
      if isotpMaxMessage < msg.length then result = .error .overflow ∧ written = out
      else if (segments msg).length ≤ out.length then
        result = .ok (segments msg).length ∧
        written.map Buffer.elements = overwrite (out.map Buffer.elements) 0 (segments msg)
      else result = .error .bufferTooSmall := by
  by_cases long : isotpMaxMessage < msg.length
  · refine ⟨.error .overflow, out, ?_, ?_⟩
    · simp [encodeMessage, long]
    · rw [if_pos long]
      exact ⟨rfl, rfl⟩
  · simp only [if_neg long]
    by_cases short : msg.length ≤ isotpSfMax
    · rw [segments, if_pos short]
      exact single_writes short out
    · exact multi_writes short long out

theorem encodeMessage_ok {msg : List UInt8} {out written : List Frame} {count : Nat}
    (encoded : encodeMessage msg out = some (.ok count, written)) :
    count = (segments msg).length ∧ (written.take count).map Buffer.elements = segments msg := by
  obtain ⟨result, left, returned, spec⟩ := encodeMessage_writes msg out
  rw [encoded] at returned
  cases returned
  split at spec
  · cases spec.1
  · split at spec
    · obtain ⟨counted, elements⟩ := spec
      cases counted
      exact ⟨rfl, by rw [List.map_take, elements, take_overwrite_zero]⟩
    · cases spec

end TptChassis.Proofs.IsoTpSegments

import TptChassis.Proofs.IsoTpFeed
import TptChassis.Proofs.IsoTpSegments

/-! The encoder's contract. Its frames are numbered from the First Frame on, and
their data is the message, followed by zeros in the last frame only. -/

namespace TptChassis.Proofs.IsoTpFrames
open IsoTp IsoTpFeed IsoTpSegments Slices

theorem nibble_cases {sn : UInt8} (small : sn.toNat < 16) :
    ((0x20 : UInt8) ||| sn) >>> 4 = 2 ∧ ((0x20 : UInt8) ||| sn) &&& 0x0F = sn ∧
      ((sn + 1) &&& 0x0F).toNat < 16 := by
  have every : ∀ n : Fin 16, ((0x20 : UInt8) ||| UInt8.ofNat n) >>> 4 = 2 ∧
      ((0x20 : UInt8) ||| UInt8.ofNat n) &&& 0x0F = UInt8.ofNat n ∧
      ((UInt8.ofNat n + 1) &&& 0x0F).toNat < 16 := by decide
  simpa using every ⟨sn.toNat, small⟩

private theorem single_header {length : Nat} (small : length ≤ 7) :
    UInt8.ofNat length >>> 4 = 0 ∧ (UInt8.ofNat length &&& 0x0F).toNat = length := by
  have every : ∀ n : Fin 8, UInt8.ofNat n >>> 4 = 0 ∧ (UInt8.ofNat n &&& 0x0F).toNat = n := by decide
  exact every ⟨length, by omega⟩

private theorem first_header {high : Nat} (small : high < 16) :
    ((0x10 : UInt8) ||| (UInt8.ofNat high &&& 0x0F)) >>> 4 = 1 ∧
      (((0x10 : UInt8) ||| (UInt8.ofNat high &&& 0x0F)) &&& 0x0F).toNat = high := by
  have every : ∀ n : Fin 16, ((0x10 : UInt8) ||| (UInt8.ofNat n &&& 0x0F)) >>> 4 = 1 ∧
      (((0x10 : UInt8) ||| (UInt8.ofNat n &&& 0x0F)) &&& 0x0F).toNat = n := by decide
  exact every ⟨high, small⟩

private theorem high_lt {length : Nat} (bounded : length ≤ isotpMaxMessage) : length >>> 8 < 16 := by
  simp only [Nat.shiftRight_eq_div_pow, isotpMaxMessage] at bounded ⊢
  omega

private theorem messageLength_firstFrame {msg : List UInt8} (bounded : msg.length ≤ isotpMaxMessage) :
    messageLength (firstFrame msg) = msg.length := by
  have low : msg.length &&& 0xFF = msg.length % 256 := Nat.and_two_pow_sub_one_eq_mod msg.length 8
  have byte : (UInt8.ofNat (msg.length % 256)).toNat = msg.length % 256 := by
    rw [UInt8.toNat_ofNat']
    omega
  simp only [messageLength, firstFrame, IsoTpLink.declaredLength, List.headD_cons, (first_header (high_lt bounded)).2,
    List.getElem?_cons_succ, List.getElem?_cons_zero, Option.getD_some, low, byte]
  rw [← Nat.shiftLeft_add_eq_or_of_lt (Nat.mod_lt _ (Nat.succ_pos 255)), Nat.shiftLeft_eq, Nat.shiftRight_eq_div_pow]
  omega

theorem padded_full {size : Nat} {data : List UInt8} (full : data.length = size) : padded size data = data := by
  simp [padded, full]

theorem length_padded {size : Nat} {data : List UInt8} (short : data.length ≤ size) :
    (padded size data).length = size := by
  simp only [padded, List.length_append, List.length_replicate]
  omega

/-- The pieces after the First Frame: all full, except that the last is padded. -/
theorem pieces_split {rest : List UInt8} (nonempty : 0 < rest.length) :
    ∃ full last, pieces rest = full ++ [padded 7 last] ∧ full.flatten.length = 7 * full.length ∧
      0 < last.length ∧ last.length ≤ 7 ∧ full.flatten ++ last = rest := by
  obtain ⟨full, last, split, sizes, total, positive, bound, joined⟩ := chunks_split (Nat.succ_pos 6) nonempty
  refine ⟨full, last, ?_, total, positive, bound, joined⟩
  have unchanged : full.map (padded 7) = full :=
    (List.map_congr_left fun piece member => padded_full (sizes piece member)).trans (List.map_id' full)
  simp only [pieces, isotpCfMax, split, List.map_append, List.map_singleton, unchanged]

/-- The number of frames a message of this length takes. -/
def frameCount (length : Nat) : Nat := if length ≤ 7 then 1 else 1 + (length - 6 + 6) / 7

theorem length_segments (msg : List UInt8) : (segments msg).length = frameCount msg.length := by
  by_cases short : msg.length ≤ 7
  · rw [segments_short short, frameCount, if_pos short]
    rfl
  · have pieces : (chunks isotpCfMax (msg.drop 6)).length = (msg.length - 6 + 6) / 7 := by
      rw [length_chunks (by decide), List.length_drop]
      rfl
    rw [segments_long (Nat.lt_of_not_le short), frameCount, if_neg short, List.length_cons, length_consecutiveFrames,
      IsoTpSegments.pieces, List.length_map, pieces, Nat.add_comm]

/-- The data bytes of a frame that the encoder writes. -/
def frameData (frame : List UInt8) : List UInt8 :=
  if pciType frame = some 1 then firstData frame else consecutiveData frame

/-- Frames that carry a message: a Single Frame, or a First Frame followed by
Consecutive Frames in order. Only the last frame is padded. -/
structure Carries (msg : List UInt8) (frames : List (List UInt8)) : Prop where
  single : msg.length ≤ 7 → ∀ frame ∈ frames, pciType frame = some 0 ∧ (lowNibble frame).toNat = msg.length
  first : 7 < msg.length → ∃ frame, frames[0]? = some frame ∧ pciType frame = some 1 ∧ messageLength frame = msg.length
  consecutive : 7 < msg.length → ∀ index frame, 1 ≤ index → frames[index]? = some frame →
    pciType frame = some 2 ∧ (lowNibble frame).toNat = index % 16
  data : ∃ full last padding, frames.map frameData = full ++ [last ++ List.replicate padding 0] ∧
    full.flatten ++ last = msg

theorem singleFrame_reads {msg : List UInt8} (short : msg.length ≤ 7) :
    pciType (singleFrame msg) = some 0 ∧ (lowNibble (singleFrame msg)).toNat = msg.length := by
  obtain ⟨type, length⟩ := single_header short
  exact ⟨congrArg some type, length⟩

theorem firstFrame_reads {msg : List UInt8} (bounded : msg.length ≤ isotpMaxMessage) :
    pciType (firstFrame msg) = some 1 ∧ messageLength (firstFrame msg) = msg.length :=
  ⟨congrArg some (first_header (high_lt bounded)).1, messageLength_firstFrame bounded⟩

private theorem next_number (number : Nat) :
    (UInt8.ofNat (number % 16) + 1) &&& 0x0F = UInt8.ofNat ((number + 1) % 16) := by
  have every : ∀ n : Fin 16, (UInt8.ofNat n + 1) &&& 0x0F = UInt8.ofNat ((n + 1) % 16) := by decide
  rw [every ⟨number % 16, Nat.mod_lt _ (Nat.succ_pos 15)⟩, Nat.mod_add_mod]

theorem consecutiveFrames_get (number : Nat) (data : List (List UInt8)) (index : Nat) :
    (consecutiveFrames (UInt8.ofNat (number % 16)) data)[index]? =
      data[index]?.map fun piece => (0x20 ||| UInt8.ofNat ((number + index) % 16)) :: piece := by
  induction data generalizing number index with
  | nil => rfl
  | cons first rest ih =>
    cases index with
    | zero => rfl
    | succ index =>
      rw [consecutiveFrames, List.getElem?_cons_succ, List.getElem?_cons_succ, next_number, ih, Nat.add_assoc,
        Nat.add_comm 1]

private theorem number_toNat (number : Nat) : (UInt8.ofNat (number % 16)).toNat = number % 16 := by
  rw [UInt8.toNat_ofNat']
  omega

theorem consecutiveFrames_read {data : List (List UInt8)} {index : Nat} {frame : List UInt8}
    (found : (consecutiveFrames 1 data)[index]? = some frame) :
    pciType frame = some 2 ∧ (lowNibble frame).toNat = (index + 1) % 16 := by
  have numbered := consecutiveFrames_get 1 data index
  have one : UInt8.ofNat (1 % 16) = 1 := rfl
  rw [one, found, eq_comm, Option.map_eq_some_iff] at numbered
  obtain ⟨piece, _, rfl⟩ := numbered
  have small : (UInt8.ofNat ((1 + index) % 16)).toNat < 16 := by
    rw [number_toNat]
    exact Nat.mod_lt _ (Nat.succ_pos 15)
  obtain ⟨type, number, _⟩ := nibble_cases small
  refine ⟨congrArg some type, ?_⟩
  rw [lowNibble, List.headD_cons, number, number_toNat, Nat.add_comm]

private theorem frameData_other {frame : List UInt8} {type : UInt8} (other : pciType frame = some type) (kind : type ≠ 1) :
    frameData frame = frame.drop 1 := by
  rw [frameData, if_neg]
  · rfl
  · intro first
    exact kind (Option.some.inj (other.symm.trans first))

theorem consecutiveFrames_data {sn : UInt8} (small : sn.toNat < 16) (data : List (List UInt8)) :
    (consecutiveFrames sn data).map frameData = data := by
  induction data generalizing sn with
  | nil => rfl
  | cons first rest ih =>
    obtain ⟨type, _, smaller⟩ := nibble_cases small
    have consecutive : pciType ((0x20 ||| sn) :: first) = some 2 := congrArg some type
    rw [consecutiveFrames, List.map_cons, ih smaller, frameData_other consecutive (by decide)]
    rfl

theorem segments_carry {msg : List UInt8} (bounded : msg.length ≤ isotpMaxMessage) : Carries msg (segments msg) := by
  by_cases short : msg.length ≤ 7
  · rw [segments_short short]
    have header := singleFrame_reads short
    refine ⟨?_, fun long => absurd short (Nat.not_le_of_lt long), fun long => absurd short (Nat.not_le_of_lt long), ?_⟩
    · intro _ frame member
      cases List.mem_singleton.mp member
      exact header
    · refine ⟨[], msg, isotpSfMax - msg.length, ?_, rfl⟩
      rw [List.map_singleton, frameData_other header.1 (by decide)]
      rfl
  · have long := Nat.lt_of_not_le short
    rw [segments_long long]
    have header := firstFrame_reads bounded
    refine ⟨fun small => absurd small short, fun _ => ⟨firstFrame msg, rfl, header⟩, ?_, ?_⟩
    · intro _ index frame later found
      obtain ⟨index, rfl⟩ := Nat.exists_eq_add_of_le' later
      exact consecutiveFrames_read found
    · have rest : 0 < (msg.drop 6).length := by
        simp only [List.length_drop]
        omega
      obtain ⟨full, last, split, _, _, _, joined⟩ := pieces_split rest
      refine ⟨msg.take 6 :: full, last, 7 - last.length, ?_, ?_⟩
      · rw [List.map_cons, consecutiveFrames_data (by decide), frameData, if_pos header.1, split]
        rfl
      · rw [List.flatten_cons, List.append_assoc, joined, List.take_append_drop]

private theorem elements_injective : Function.Injective (@Buffer.elements UInt8 8) :=
  fun _ _ same => Buffer.ext same

/-- The encoder refuses a message that is too long for the length field, and
otherwise an output slice with too few frames; else it writes the frames that
carry the message to the front of the slice, and nothing behind them. -/
theorem encodeMessage_spec (msg : List UInt8) (out : List Frame) :
    ∃ result written, encodeMessage msg out = some (result, written) ∧
      if isotpMaxMessage < msg.length then result = .error .overflow
      else if out.length < frameCount msg.length then result = .error .bufferTooSmall
      else result = .ok (frameCount msg.length) ∧ written.length = out.length ∧
        written.drop (frameCount msg.length) = out.drop (frameCount msg.length) ∧
        Carries msg ((written.take (frameCount msg.length)).map Buffer.elements) := by
  obtain ⟨result, written, encoded, spec⟩ := encodeMessage_writes msg out
  refine ⟨result, written, encoded, ?_⟩
  by_cases long : isotpMaxMessage < msg.length
  · rw [if_pos long] at spec
    rw [if_pos long]
    exact spec.1
  · rw [if_neg long, length_segments] at spec
    rw [if_neg long]
    by_cases room : out.length < frameCount msg.length
    · rw [if_neg (Nat.not_le_of_lt room)] at spec
      rw [if_pos room]
      exact spec
    · have fits : frameCount msg.length ≤ out.length := Nat.le_of_not_lt room
      rw [if_pos fits] at spec
      rw [if_neg room]
      obtain ⟨counted, elements⟩ := spec
      have inside : 0 + (segments msg).length ≤ (out.map Buffer.elements).length := by
        rw [Nat.zero_add, length_segments, List.length_map]
        exact fits
      refine ⟨counted, ?_, ?_, ?_⟩
      · have lengths := congrArg List.length elements
        rwa [length_overwrite inside, List.length_map, List.length_map] at lengths
      · apply elements_injective.list_map
        rw [List.map_drop, List.map_drop, elements, ← length_segments, drop_overwrite_zero]
      · rw [List.map_take, elements, ← length_segments, take_overwrite_zero]
        exact segments_carry (Nat.le_of_not_lt long)

end TptChassis.Proofs.IsoTpFrames

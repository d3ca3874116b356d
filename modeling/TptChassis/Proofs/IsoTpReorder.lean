import TptChassis.Proofs.IsoTpLoss
import TptChassis.Proofs.IsoTpRoundTrip

/-! Frames of one message in any order, any of them missing or repeated. A link knows
a Consecutive Frame by its number, which comes round after sixteen frames; what it can
be made to complete is the message with pieces exchanged for others of their number. -/

namespace TptChassis.Proofs.IsoTpReorder
open IsoTp IsoTpFeed IsoTpSegments IsoTpFrames IsoTpRoundTrip IsoTpLoss Slices

variable {N : Nat}

/-- Each piece is one of the data whose frame bears the same sequence number. -/
def Alike (data taken : List (List UInt8)) : Prop :=
  ∀ index piece, taken[index]? = some piece → ∃ other, other % 16 = index % 16 ∧ data[other]? = some piece

theorem Alike.append {data taken : List (List UInt8)} {piece : List UInt8} {other : Nat} (alike : Alike data taken)
    (same : other % 16 = taken.length % 16) (found : data[other]? = some piece) : Alike data (taken ++ [piece]) := by
  intro index next there
  by_cases inside : index < taken.length
  · rw [List.getElem?_append_left inside] at there
    exact alike index next there
  · have bound := (List.getElem?_eq_some_iff.mp there).1
    rw [List.length_append, List.length_singleton] at bound
    obtain rfl : index = taken.length := by omega
    rw [List.getElem?_concat_length] at there
    cases there
    exact ⟨other, same, found⟩

theorem Alike.mem {data taken : List (List UInt8)} (alike : Alike data taken) {piece : List UInt8} (member : piece ∈ taken) :
    piece ∈ data := by
  obtain ⟨index, there⟩ := List.mem_iff_getElem?.mp member
  obtain ⟨_, _, found⟩ := alike index piece there
  exact List.mem_of_getElem? found

/-- Up to sixteen pieces, the number tells which one it is. -/
theorem Alike.same {data taken : List (List UInt8)} (alike : Alike data taken) (few : data.length ≤ 16)
    (many : taken.length = data.length) : taken = data := by
  apply List.ext_getElem?
  intro index
  by_cases inside : index < taken.length
  · obtain ⟨other, same, found⟩ := alike index taken[index] (List.getElem?_eq_getElem inside)
    have bound := (List.getElem?_eq_some_iff.mp found).1
    obtain rfl : other = index := by omega
    rw [found, List.getElem?_eq_getElem inside]
  · rw [List.getElem?_eq_none (by omega), List.getElem?_eq_none (by omega)]

/-- What a link holds of a message: its first bytes and some pieces. A frame that went
beyond the declared length left the number advanced, and no later one fits either. -/
structure Partway (msg : List UInt8) (link : IsoTpLink N) (taken : List (List UInt8)) : Prop where
  total : link.total = msg.length
  holding : Holding link (msg.take 6 ++ taken.flatten)
  alike : Alike (pieces (msg.drop 6)) taken
  next : link.sn.toNat = (taken.length + 1) % 16 ∨ msg.length < link.filled + 7

def Mixed (msg : List UInt8) (link : IsoTpLink N) : Prop := link.receiving = true → ∃ taken, Partway msg link taken

theorem next_sn (sn : UInt8) : ((sn + 1) &&& 0x0F).toNat = (sn.toNat + 1) % 16 := by
  rw [UInt8.toNat_and, UInt8.toNat_add]
  have low := Nat.and_two_pow_sub_one_eq_mod ((sn.toNat + 1) % 256) 4
  simp only [UInt8.reduceToNat] at low ⊢
  rw [low]
  omega

/-- A Consecutive Frame of the message, as its number and its piece. -/
theorem consecutive_piece {msg frame : List UInt8} (long : 7 < msg.length) (bounded : msg.length ≤ isotpMaxMessage)
    (member : frame ∈ segments msg) (type : pciType frame = some 2) :
    ∃ index, (pieces (msg.drop 6))[index]? = some (consecutiveData frame) ∧ (lowNibble frame).toNat = (index + 1) % 16 ∧
      (consecutiveData frame).length = 7 := by
  rw [segments_long long] at member
  rcases List.mem_cons.mp member with rfl | behind
  · cases type.symm.trans (firstFrame_reads bounded).1
  · obtain ⟨index, found⟩ := List.mem_iff_getElem?.mp behind
    have piece : (pieces (msg.drop 6))[index]? = some (consecutiveData frame) := by
      rw [← consecutiveFrames_bytes 1 (pieces (msg.drop 6)), List.getElem?_map, found]
      rfl
    exact ⟨index, piece, (consecutiveFrames_read found).2, length_piece (List.mem_of_getElem? piece)⟩

/-- The piece of the frame a link awaits, while there is room for a whole one. -/
theorem Partway.append {msg frame : List UInt8} {link : IsoTpLink N} {taken : List (List UInt8)} (long : 7 < msg.length)
    (bounded : msg.length ≤ isotpMaxMessage) (member : frame ∈ segments msg) (type : pciType frame = some 2)
    (partway : Partway msg link taken) (awaited : lowNibble frame = link.sn)
    (room : link.filled + (consecutiveData frame).length ≤ link.total) :
    Alike (pieces (msg.drop 6)) (taken ++ [consecutiveData frame]) ∧ link.sn.toNat = (taken.length + 1) % 16 := by
  obtain ⟨index, piece, number, size⟩ := consecutive_piece long bounded member type
  rw [awaited] at number
  rw [partway.total, size] at room
  rcases partway.next with next | past
  · exact ⟨partway.alike.append (by omega) piece, next⟩
  · omega

theorem feed_keeps_mixed {msg frame : List UInt8} {link after : IsoTpLink N} {output} (long : 7 < msg.length)
    (bounded : msg.length ≤ isotpMaxMessage) (member : frame ∈ segments msg) (mixed : Mixed msg link)
    (fed : link.feed frame = some (output, after)) : Mixed msg after := by
  cases feed_cases fed with
  | rejected => exact mixed
  | overflowed type running next beyond =>
    intro _
    obtain ⟨taken, partway⟩ := mixed running
    obtain ⟨_, _, _, size⟩ := consecutive_piece long bounded member type
    rw [partway.total, size] at beyond
    exact ⟨taken, partway.total, ⟨partway.holding.filled, partway.holding.bytes⟩, partway.alike, .inr beyond⟩
  | single =>
    intro running
    cases running
  | first type whole declared copied =>
    have opening : frame = firstFrame msg := by
      rw [segments_long long] at member
      rcases List.mem_cons.mp member with opening | behind
      · exact opening
      · cases type.symm.trans (consecutiveFrames_type behind)
    subst opening
    intro _
    have data : firstData (firstFrame msg) = msg.take 6 := rfl
    obtain ⟨_, elements⟩ := Buffer.copy_elements copied
    refine ⟨[], (firstFrame_reads bounded).2, ⟨by simp [data], ?_⟩, ?_, .inl rfl⟩
    · simpa [elements, data] using take_overwrite_zero link.buf.elements (msg.take 6)
    · intro index piece nothing
      cases nothing
  | continued type running next short copied =>
    intro _
    obtain ⟨taken, partway⟩ := mixed running
    obtain ⟨alike, number⟩ := partway.append long bounded member type next (Nat.le_of_lt short)
    refine ⟨taken ++ [consecutiveData frame], partway.total, ⟨?_, ?_⟩, alike, .inl ?_⟩
    · rw [partway.holding.filled, List.flatten_append, List.flatten_singleton, ← List.append_assoc, ← List.length_append]
    · rw [List.flatten_append, List.flatten_singleton, ← List.append_assoc]
      exact partway.holding.copy copied
    · rw [next_sn, number, List.length_append, List.length_singleton]
      omega
  | completed =>
    intro running
    cases running

/-- What a link that holds part of a message completes with one more of its frames. -/
theorem feed_completes {msg frame message : List UInt8} {link after : IsoTpLink N} (long : 7 < msg.length)
    (bounded : msg.length ≤ isotpMaxMessage) (member : frame ∈ segments msg) (mixed : Mixed msg link)
    (fed : link.feed frame = some (.ok (.complete message), after)) :
    ∃ taken, message = msg.take 6 ++ taken.flatten ∧ message.length = msg.length ∧ Alike (pieces (msg.drop 6)) taken := by
  cases feed_cases fed with
  | single type =>
    rw [segments_long long] at member
    rcases List.mem_cons.mp member with rfl | behind
    · cases type.symm.trans (firstFrame_reads bounded).1
    · cases type.symm.trans (consecutiveFrames_type behind)
  | completed type running next full copied =>
    obtain ⟨taken, partway⟩ := mixed running
    have alike := (partway.append long bounded member type next (Nat.le_of_eq full)).1
    have bytes := partway.holding.copy copied
    rw [full] at bytes
    refine ⟨taken ++ [consecutiveData frame], ?_, ?_, alike⟩
    · rw [bytes, List.flatten_append, List.flatten_singleton, List.append_assoc]
    · rw [bytes, List.length_append, ← partway.holding.filled, full, partway.total]

theorem run_completes {msg message : List UInt8} {start last : IsoTpLink N} {frames : List (List UInt8)}
    {outputs : List (Except IsoTpError IsoTpEvent)} (long : 7 < msg.length) (bounded : msg.length ≤ isotpMaxMessage)
    (mixed : Mixed msg start) (arrived : ∀ frame ∈ frames, frame ∈ segments msg)
    (ran : (IsoTpLink.machine N).run start frames = some (outputs, last)) (completed : .ok (.complete message) ∈ outputs) :
    ∃ taken, message = msg.take 6 ++ taken.flatten ∧ message.length = msg.length ∧ Alike (pieces (msg.drop 6)) taken := by
  induction frames generalizing start outputs with
  | nil =>
    cases ran
    cases completed
  | cons frame rest ih =>
    obtain ⟨output, next, replies, fed, rest_ran, rfl⟩ := Machine.run_cases ran
    have here := arrived frame List.mem_cons_self
    rcases List.mem_cons.mp completed with same | later
    · rw [← same] at fed
      exact feed_completes long bounded here mixed fed
    · exact ih (feed_keeps_mixed long bounded here mixed fed) (fun frame member => arrived frame (List.mem_cons_of_mem _ member))
        rest_ran later

theorem idle_mixed {start : IsoTpLink N} (idle : start.receiving = false) (msg : List UInt8) : Mixed msg start := by
  intro running
  cases idle.symm.trans running

theorem pieces_flatten {taken : List (List UInt8)} (sizes : ∀ piece ∈ taken, piece.length = 7) :
    pieces taken.flatten = taken := by
  rw [pieces, isotpCfMax, chunks_flatten (Nat.succ_pos 6) sizes,
    List.map_congr_left fun piece member => padded_full (sizes piece member), List.map_id']

theorem flatten_pieces {rest : List UInt8} (nonempty : 0 < rest.length) (whole : rest.length % 7 = 0) :
    (pieces rest).flatten = rest := by
  obtain ⟨full, last, split, size, positive, bound, joined⟩ := pieces_split nonempty
  rw [← joined, List.length_append, size] at whole
  rw [split, padded_full (by omega), List.flatten_append, List.flatten_singleton, joined]

/-- A message that differs from the other in the place of alike pieces only. -/
structure Resembles (msg message : List UInt8) : Prop where
  length : message.length = msg.length
  first : message.take 6 = msg.take 6
  alike : Alike (pieces (msg.drop 6)) (pieces (message.drop 6))

theorem Resembles.refl (msg : List UInt8) : Resembles msg msg := ⟨rfl, rfl, fun index _ found => ⟨index, rfl, found⟩⟩

theorem run_resembles {msg message : List UInt8} {start last : IsoTpLink N} {frames : List (List UInt8)}
    {outputs : List (Except IsoTpError IsoTpEvent)} (long : 7 < msg.length) (bounded : msg.length ≤ isotpMaxMessage)
    (idle : start.receiving = false) (arrived : ∀ frame ∈ frames, frame ∈ segments msg)
    (ran : (IsoTpLink.machine N).run start frames = some (outputs, last)) (completed : .ok (.complete message) ∈ outputs) :
    Resembles msg message ∧ msg.length % 7 = 6 := by
  obtain ⟨taken, rfl, length, alike⟩ := run_completes long bounded (idle_mixed idle msg) arrived ran completed
  have six : (msg.take 6).length = 6 := by
    rw [List.length_take]
    omega
  have sizes : ∀ piece ∈ taken, piece.length = 7 := fun piece member => length_piece (alike.mem member)
  refine ⟨⟨length, List.take_left' six, ?_⟩, ?_⟩
  · rw [List.drop_left' six, pieces_flatten sizes]
    exact alike
  · rw [List.length_append, six, length_flatten_pieces sizes] at length
    omega

/-- Sixteen pieces are all told apart, so only the message itself resembles it. -/
theorem Resembles.same {msg message : List UInt8} (resembles : Resembles msg message) (long : 7 < msg.length)
    (few : msg.length ≤ 118) (whole : msg.length % 7 = 6) : message = msg := by
  have counts (rest : List UInt8) : (pieces rest).length = (rest.length + 6) / 7 := by
    rw [pieces, List.length_map, isotpCfMax, length_chunks (Nat.succ_pos 6)]
  have all := resembles.alike.same (by rw [counts, List.length_drop]; omega)
    (by rw [counts, counts, List.length_drop, List.length_drop, resembles.length])
  have rest {other : List UInt8} (same : other.length = msg.length) : (pieces (other.drop 6)).flatten = other.drop 6 := by
    apply flatten_pieces <;> rw [List.length_drop] <;> omega
  rw [← List.take_append_drop 6 message, ← List.take_append_drop 6 msg, resembles.first, ← rest resembles.length, all, rest rfl]

theorem single_completes {msg message : List UInt8} {link after : IsoTpLink N} (short : msg.length ≤ 7)
    (fed : link.feed (singleFrame msg) = some (.ok (.complete message), after)) : message = msg := by
  cases feed_cases fed with
  | single => exact singleData_singleFrame short
  | completed type => cases type.symm.trans (singleFrame_reads short).1

theorem Resembles.segments_subset {msg message : List UInt8} (long : 7 < msg.length) (resembles : Resembles msg message) :
    ∀ frame ∈ segments message, frame ∈ segments msg := by
  intro frame member
  rw [segments_long (resembles.length ▸ long)] at member
  rw [segments_long long]
  rcases List.mem_cons.mp member with rfl | behind
  · have same : firstFrame message = firstFrame msg := by
      rw [firstFrame, firstFrame, resembles.length, isotpFfMax, resembles.first]
    rw [same]
    exact List.mem_cons_self
  · obtain ⟨index, found⟩ := List.mem_iff_getElem?.mp behind
    have one : UInt8.ofNat (1 % 16) = 1 := rfl
    rw [← one, consecutiveFrames_get, Option.map_eq_some_iff] at found
    obtain ⟨piece, there, rfl⟩ := found
    obtain ⟨other, same, here⟩ := resembles.alike index piece there
    have numbered : (consecutiveFrames 1 (pieces (msg.drop 6)))[other]? =
        some ((0x20 ||| UInt8.ofNat ((1 + index) % 16)) :: piece) := by
      rw [← one, consecutiveFrames_get, here, Option.map_some, Nat.add_mod, same, ← Nat.add_mod]
    exact List.mem_cons_of_mem _ (List.mem_of_getElem? numbered)

/-- What a link can be made to complete from the frames of a message of more than
seven bytes, in whatever order they come and however often: if the last one is full,
every message that resembles it, and otherwise none. -/
theorem mixed_frames_complete_iff {msg : List UInt8} {out written : List Frame} {count : Nat}
    (encoded : encodeMessage msg out = some (.ok count, written)) (long : 7 < msg.length) (fits : msg.length ≤ N)
    {start : IsoTpLink N} (idle : start.receiving = false) (message : List UInt8) :
    (∃ frames outputs last, (∀ frame ∈ frames, frame ∈ (written.take count).map Buffer.elements) ∧
      (IsoTpLink.machine N).run start frames = some (outputs, last) ∧ .ok (.complete message) ∈ outputs) ↔
    Resembles msg message ∧ msg.length % 7 = 6 := by
  obtain ⟨bounded, elements⟩ := encoded_segments encoded
  rw [elements]
  constructor
  · intro completes
    obtain ⟨frames, outputs, last, arrived, ran, completed⟩ := completes
    exact run_resembles long bounded idle arrived ran completed
  · intro can
    obtain ⟨resembles, whole⟩ := can
    obtain ⟨middle, after, _, ran⟩ := run_segments start (resembles.length ▸ long) (resembles.length ▸ fits)
      (resembles.length ▸ bounded)
    rw [resembles.length, if_pos whole] at ran
    exact ⟨_, _, after, resembles.segments_subset long, ran, List.mem_append_right _ (List.mem_singleton_self _)⟩

theorem mixed_frames_complete_thirteen :
    ∃ frames outputs last,
      (∀ frame ∈ frames, frame ∈ [[(0x10 : UInt8), 13, 0, 1, 2, 3, 4, 5], [0x21, 6, 7, 8, 9, 10, 11, 12]]) ∧
      (IsoTpLink.machine 64).run (IsoTpLink.new 64) frames = some (outputs, last) ∧
      .ok (.complete [0, 1, 2, 3, 4, 5, 6, 7, 8, 9, 10, 11, 12]) ∈ outputs := by
  have encoded : encodeMessage [0, 1, 2, 3, 4, 5, 6, 7, 8, 9, 10, 11, 12] [zeroFrame, zeroFrame] =
      some (.ok 2, [⟨[0x10, 13, 0, 1, 2, 3, 4, 5], rfl⟩, ⟨[0x21, 6, 7, 8, 9, 10, 11, 12], rfl⟩]) := by
    decide +kernel
  exact (mixed_frames_complete_iff encoded (by decide) (by decide) rfl _).mpr ⟨.refl _, by decide⟩

/-- A message of up to sixteen Consecutive Frames is safe from any order of its frames,
with any of them lost or repeated. -/
theorem few_frames_any_order {msg : List UInt8} {out written : List Frame} {count : Nat}
    (encoded : encodeMessage msg out = some (.ok count, written)) (few : msg.length ≤ 118) {start last : IsoTpLink N}
    (idle : start.receiving = false) {frames : List (List UInt8)}
    (arrived : ∀ frame ∈ frames, frame ∈ (written.take count).map Buffer.elements)
    {outputs : List (Except IsoTpError IsoTpEvent)} (ran : (IsoTpLink.machine N).run start frames = some (outputs, last))
    {message : List UInt8} (completed : .ok (.complete message) ∈ outputs) : message = msg := by
  obtain ⟨bounded, elements⟩ := encoded_segments encoded
  rw [elements] at arrived
  by_cases short : msg.length ≤ 7
  · rw [segments_short short] at arrived
    obtain ⟨before, frame, after, member, fed⟩ := Machine.run_answered ran completed
    exact single_completes short (List.mem_singleton.mp (arrived frame member) ▸ fed)
  · have long := Nat.lt_of_not_le short
    obtain ⟨resembles, whole⟩ := run_resembles long bounded idle arrived ran completed
    exact resembles.same long few whole

theorem few_frames_any_order_repeated :
    ∃ outputs last, (IsoTpLink.machine 64).run (IsoTpLink.new 64)
      [[0x21, 6, 7, 8, 9, 10, 11, 12], [0x10, 13, 0, 1, 2, 3, 4, 5], [0x10, 13, 0, 1, 2, 3, 4, 5],
        [0x21, 6, 7, 8, 9, 10, 11, 12], [0x21, 6, 7, 8, 9, 10, 11, 12]] = some (outputs, last) ∧
      .ok (.complete [0, 1, 2, 3, 4, 5, 6, 7, 8, 9, 10, 11, 12]) ∈ outputs ∧
      ∀ message, .ok (.complete message) ∈ outputs → message = [0, 1, 2, 3, 4, 5, 6, 7, 8, 9, 10, 11, 12] := by
  have encoded : encodeMessage [0, 1, 2, 3, 4, 5, 6, 7, 8, 9, 10, 11, 12] [zeroFrame, zeroFrame] =
      some (.ok 2, [⟨[0x10, 13, 0, 1, 2, 3, 4, 5], rfl⟩, ⟨[0x21, 6, 7, 8, 9, 10, 11, 12], rfl⟩]) := by
    decide +kernel
  have ran : (IsoTpLink.machine 64).run (IsoTpLink.new 64)
      [[0x21, 6, 7, 8, 9, 10, 11, 12], [0x10, 13, 0, 1, 2, 3, 4, 5], [0x10, 13, 0, 1, 2, 3, 4, 5],
        [0x21, 6, 7, 8, 9, 10, 11, 12], [0x21, 6, 7, 8, 9, 10, 11, 12]] = some (_, _) := rfl
  exact ⟨_, _, ran, by decide, fun message completed => few_frames_any_order encoded (by decide) rfl (by decide) ran completed⟩

end TptChassis.Proofs.IsoTpReorder

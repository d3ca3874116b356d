import TptChassis.Proofs.IsoTpFrames

/-! Encoding a message and feeding its frames to a link. Every frame but the
last passes; the last is padded to eight bytes, and the link counts the padding
as data. -/

namespace TptChassis.Proofs.IsoTpRoundTrip
open IsoTp IsoTpFeed IsoTpSegments IsoTpFrames Slices

variable {N : Nat}

/-- A link that has taken part of a message and awaits the frame numbered `sn`. -/
structure Awaiting (link : IsoTpLink N) (total : Nat) (data : List UInt8) : Prop where
  holding : Holding link data
  declares : link.total = total
  bounded : total ≤ N
  running : link.receiving = true
  small : link.sn.toNat < 16

private theorem consecutive_fed {link : IsoTpLink N} {total : Nat} {data : List UInt8} (more : List UInt8)
    (awaiting : Awaiting link total data) :
    if total < data.length + more.length then
      ∃ after, link.feed ((0x20 ||| link.sn) :: more) = some (.error .overflow, after)
    else if data.length + more.length = total then
      ∃ after, link.feed ((0x20 ||| link.sn) :: more) = some (.ok (.complete (data ++ more)), after)
    else
      ∃ after, link.feed ((0x20 ||| link.sn) :: more) = some (.ok .incomplete, after) ∧
        Awaiting after total (data ++ more) ∧ after.sn = (link.sn + 1) &&& 0x0F := by
  obtain ⟨type, next, small⟩ := nibble_cases awaiting.small
  have fed := feed_consecutive ((0x20 ||| link.sn) :: more) (congrArg some type) awaiting.holding
    awaiting.running (awaiting.declares ▸ awaiting.bounded) next
  simp only [awaiting.declares, awaiting.holding.filled, consecutiveData, List.drop_one, List.tail_cons] at fed
  split
  next long => simpa only [if_pos long] using fed
  next short =>
    rw [if_neg short] at fed
    split
    next full => simpa only [if_pos full] using fed
    next partway =>
      rw [if_neg partway] at fed
      obtain ⟨after, fed, holding, same, sn, running⟩ := fed
      exact ⟨after, fed, ⟨holding, same, awaiting.bounded, running, sn ▸ small⟩, sn⟩

/-- Pieces that leave the message unfinished are all taken, one after another,
and the sequence numbers of any further pieces carry on from there. -/
theorem run_partway (taken : List (List UInt8)) {link : IsoTpLink N} {total : Nat} {data : List UInt8}
    (awaiting : Awaiting link total data) (short : data.length + taken.flatten.length < total) :
    ∃ after, (IsoTpLink.machine N).run link (consecutiveFrames link.sn taken) =
        some (List.replicate taken.length (.ok .incomplete), after) ∧
      Awaiting after total (data ++ taken.flatten) ∧
      ∀ rest, consecutiveFrames link.sn (taken ++ rest) =
        consecutiveFrames link.sn taken ++ consecutiveFrames after.sn rest := by
  induction taken generalizing link data with
  | nil => exact ⟨link, rfl, by simpa using awaiting, fun rest => rfl⟩
  | cons more taken ih =>
    simp only [List.flatten_cons, List.length_append] at short
    have fed := consecutive_fed more awaiting
    rw [if_neg (by omega), if_neg (by omega)] at fed
    obtain ⟨next, fed, begun, sn⟩ := fed
    obtain ⟨after, ran, held, continues⟩ := ih begun (by simp only [List.length_append]; omega)
    refine ⟨after, ?_, by simpa [List.append_assoc] using held, ?_⟩
    · rw [consecutiveFrames, Machine.run_cons _ fed, ← sn, ran]
      rfl
    · intro rest
      rw [List.cons_append, consecutiveFrames, consecutiveFrames, ← sn, continues rest, List.cons_append]

/-- A message ends with the piece that brings it to its declared length, and
fails with a piece that goes beyond it. -/
theorem run_to_end (taken : List (List UInt8)) (last : List UInt8) {link : IsoTpLink N} {total : Nat}
    {data : List UInt8} (awaiting : Awaiting link total data)
    (short : data.length + taken.flatten.length < total)
    (reaches : total ≤ data.length + taken.flatten.length + last.length) :
    ∃ after, (IsoTpLink.machine N).run link (consecutiveFrames link.sn (taken ++ [last])) =
      some (List.replicate taken.length (.ok .incomplete) ++
        [if data.length + taken.flatten.length + last.length = total
          then .ok (.complete (data ++ taken.flatten ++ last)) else .error .overflow], after) := by
  obtain ⟨middle, ran, held, continues⟩ := run_partway taken awaiting short
  have fed := consecutive_fed last held
  simp only [List.length_append] at fed
  have finished : ∃ after, middle.feed ((0x20 ||| middle.sn) :: last) =
      some (if data.length + taken.flatten.length + last.length = total
        then .ok (.complete (data ++ taken.flatten ++ last)) else .error .overflow, after) := by
    by_cases exact : data.length + taken.flatten.length + last.length = total
    · rw [if_neg (by omega), if_pos exact] at fed
      simpa only [if_pos exact] using fed
    · rw [if_pos (by omega)] at fed
      simpa only [if_neg exact] using fed
  obtain ⟨after, fed⟩ := finished
  refine ⟨after, ?_⟩
  rw [continues, Machine.run_append, ran, Option.bind_some, consecutiveFrames, Machine.run_cons _ fed]
  rfl

private theorem first_fed (link : IsoTpLink N) {msg : List UInt8} (long : 7 ≤ msg.length) (fits : msg.length ≤ N)
    (bounded : msg.length ≤ isotpMaxMessage) :
    ∃ after, link.feed (firstFrame msg) = some (.ok .needFlowControl, after) ∧
      Awaiting after msg.length (msg.take 6) ∧ after.sn = 1 := by
  obtain ⟨type, declared⟩ := firstFrame_reads bounded
  have data : firstData (firstFrame msg) = msg.take 6 := rfl
  obtain ⟨after, fed, holding, total, sn, running⟩ := feed_first link (firstFrame msg) type (by simp [firstFrame])
    (by rw [declared, isotpFfMax]; omega) (by rw [data, List.length_take]; omega)
  exact ⟨after, fed, ⟨data ▸ holding, total.trans declared, fits, running, by rw [sn]; decide⟩, sn⟩

/-- A message of more than seven bytes comes through exactly when its last
Consecutive Frame needs no padding. -/
theorem run_segments (link : IsoTpLink N) {msg : List UInt8} (long : 7 < msg.length) (fits : msg.length ≤ N)
    (bounded : msg.length ≤ isotpMaxMessage) :
    ∃ middle after, (segments msg).length = middle + 2 ∧
      (IsoTpLink.machine N).run link (segments msg) =
        some (.ok .needFlowControl :: List.replicate middle (.ok .incomplete) ++
          [if msg.length % 7 = 6 then .ok (.complete msg) else .error .overflow], after) := by
  obtain ⟨begun, opened, awaiting, sn⟩ := first_fed link (Nat.le_of_lt long) fits bounded
  have rest : 0 < (msg.drop 6).length := by
    simp only [List.length_drop]
    omega
  obtain ⟨full, last, split, total, positive, bound, joined⟩ := pieces_split rest
  have lengths : full.flatten.length + last.length = msg.length - 6 := by
    rw [← List.length_append, joined, List.length_drop]
  have six : (msg.take 6).length = 6 := by
    rw [List.length_take]
    omega
  obtain ⟨after, ran⟩ := run_to_end full (padded 7 last) awaiting (by omega) (by rw [length_padded bound]; omega)
  rw [length_padded bound, six, sn] at ran
  have reassembled : 6 + full.flatten.length + 7 = msg.length → msg.take 6 ++ full.flatten ++ padded 7 last = msg := by
    intro whole
    rw [padded_full (by omega), List.append_assoc, joined, List.take_append_drop]
  have same : (if 6 + full.flatten.length + 7 = msg.length
      then .ok (.complete (msg.take 6 ++ full.flatten ++ padded 7 last)) else .error .overflow) =
      (if msg.length % 7 = 6 then .ok (.complete msg) else .error .overflow :
        Except IsoTpError IsoTpEvent) := by
    by_cases whole : 6 + full.flatten.length + 7 = msg.length
    · rw [if_pos whole, if_pos (by omega), reassembled whole]
    · rw [if_neg whole, if_neg (by omega)]
  refine ⟨full.length, after, ?_, ?_⟩
  · rw [segments_long long, split]
    simp [length_consecutiveFrames]
  · rw [segments_long long, Machine.run_cons _ opened, split, ran, same]
    rfl

private theorem run_single (link : IsoTpLink N) {msg : List UInt8} (nonempty : 1 ≤ msg.length)
    (short : msg.length ≤ 7) (fits : msg.length ≤ N) :
    ∃ after, (IsoTpLink.machine N).run link (segments msg) = some ([.ok (.complete msg)], after) := by
  obtain ⟨type, nibble⟩ := singleFrame_reads short
  have data : singleData (singleFrame msg) = msg := by
    rw [singleData, nibble]
    exact List.take_left
  obtain ⟨after, fed⟩ := feed_single link (singleFrame msg) type
    (by rw [nibble, singleFrame, List.length_cons, isotpSfMax, length_padded short]; omega) (by rw [data]; exact fits)
  refine ⟨after, ?_⟩
  rw [segments_short short, Machine.run_cons _ fed, data]
  rfl

/-- What a receiver should report for a message that arrives in `count` frames. -/
def expected (msg : List UInt8) : Nat → List (Except IsoTpError IsoTpEvent)
  | 0 => []
  | 1 => [.ok (.complete msg)]
  | middle + 2 => .ok .needFlowControl :: List.replicate middle (.ok .incomplete) ++ [.ok (.complete msg)]

/-- Encoding a message and feeding its frames to a link in any state gives the
message back exactly when it fits a Single Frame or its last Consecutive Frame
is full. -/
theorem round_trip_iff (link : IsoTpLink N) (msg : List UInt8) (nonempty : 1 ≤ msg.length)
    (fits : msg.length ≤ min N isotpMaxMessage) (out written : List Frame) (count : Nat)
    (encoded : encodeMessage msg out = some (.ok count, written)) :
    (∃ after, (IsoTpLink.machine N).run link ((written.take count).map Buffer.elements) =
      some (expected msg count, after)) ↔ msg.length ≤ 7 ∨ msg.length % 7 = 6 := by
  obtain ⟨counted, frames⟩ := encodeMessage_ok encoded
  rw [frames, counted]
  by_cases short : msg.length ≤ 7
  · obtain ⟨after, ran⟩ := run_single link nonempty short (by omega)
    rw [ran, segments_short short]
    exact ⟨fun _ => .inl short, fun _ => ⟨after, rfl⟩⟩
  · obtain ⟨middle, after, two, ran⟩ := run_segments link (Nat.lt_of_not_le short) (by omega) (by omega)
    rw [ran, two]
    constructor
    · intro given
      obtain ⟨_, same⟩ := given
      by_contra unpadded
      rw [if_neg (fun full => unpadded (.inr full))] at same
      have outputs := congrArg Prod.fst (Option.some.inj same)
      cases List.append_cancel_left outputs
    · intro unpadded
      cases unpadded with
      | inl single => exact absurd single short
      | inr full =>
        rw [if_pos full]
        exact ⟨after, rfl⟩

theorem round_trip_thirteen_bytes :
    ∃ after, (IsoTpLink.machine 64).run (IsoTpLink.new 64)
        [[0x10, 13, 0, 1, 2, 3, 4, 5], [0x21, 6, 7, 8, 9, 10, 11, 12]] =
      some ([.ok .needFlowControl, .ok (.complete [0, 1, 2, 3, 4, 5, 6, 7, 8, 9, 10, 11, 12])], after) :=
  (round_trip_iff (IsoTpLink.new 64) [0, 1, 2, 3, 4, 5, 6, 7, 8, 9, 10, 11, 12] (by decide) (by decide)
    [zeroFrame, zeroFrame]
    [⟨[0x10, 13, 0, 1, 2, 3, 4, 5], rfl⟩, ⟨[0x21, 6, 7, 8, 9, 10, 11, 12], rfl⟩] 2 (by decide +kernel)).mpr
    (.inr (by decide))

/-- Eight bytes: the two that follow the First Frame travel with five of padding. -/
theorem round_trip_eight_bytes_fails :
    ¬ ∀ (N : Nat) (link : IsoTpLink N) (msg : List UInt8), 1 ≤ msg.length → msg.length ≤ min N isotpMaxMessage →
      ∀ (out written : List Frame) (count : Nat), encodeMessage msg out = some (.ok count, written) →
        ∃ after, (IsoTpLink.machine N).run link ((written.take count).map Buffer.elements) =
          some (expected msg count, after) := by
  intro claimed
  obtain ⟨after, ran⟩ := claimed 64 (IsoTpLink.new 64) [1, 2, 3, 4, 5, 6, 7, 8] (by decide) (by decide)
    [zeroFrame, zeroFrame]
    [⟨[0x10, 8, 1, 2, 3, 4, 5, 6], rfl⟩, ⟨[0x21, 7, 8, 0, 0, 0, 0, 0], rfl⟩] 2 (by decide +kernel)
  have outputs : ((IsoTpLink.machine 64).run (IsoTpLink.new 64)
      [[0x10, 8, 1, 2, 3, 4, 5, 6], [0x21, 7, 8, 0, 0, 0, 0, 0]]).map (·.1) ≠
      some (expected [1, 2, 3, 4, 5, 6, 7, 8] 2) := by
    decide +kernel
  exact outputs (congrArg (Option.map (·.1)) ran)

/-- A message cut into frames of which the last carries just the bytes that remain. -/
def exactSegments (msg : List UInt8) : List (List UInt8) :=
  firstFrame msg :: consecutiveFrames 1 (chunks isotpCfMax (msg.drop isotpFfMax))

/-- Without padding in its last frame every message of seven bytes or more comes
through, whatever the link was in the middle of. -/
theorem exact_segments_reassembled (link : IsoTpLink N) (msg : List UInt8) (long : 7 ≤ msg.length)
    (fits : msg.length ≤ min N isotpMaxMessage) :
    ∃ after, (IsoTpLink.machine N).run link (exactSegments msg) =
      some (expected msg (exactSegments msg).length, after) := by
  obtain ⟨begun, opened, awaiting, sn⟩ := first_fed link long (by omega) (by omega)
  have rest : 0 < (msg.drop 6).length := by
    simp only [List.length_drop]
    omega
  obtain ⟨full, last, split, _, _, positive, _, joined⟩ := chunks_split (Nat.succ_pos 6) rest
  have six : (msg.take 6).length = 6 := by
    rw [List.length_take]
    omega
  have lengths : full.flatten.length + last.length = msg.length - 6 := by
    rw [← List.length_append, joined, List.length_drop]
  have whole : (msg.take 6).length + full.flatten.length + last.length = msg.length := by omega
  obtain ⟨after, ran⟩ := run_to_end full last awaiting (by omega) (by omega)
  rw [if_pos whole, List.append_assoc, joined, List.take_append_drop, sn] at ran
  have cut : exactSegments msg = firstFrame msg :: consecutiveFrames 1 (full ++ [last]) :=
    congrArg (fun pieces => firstFrame msg :: consecutiveFrames 1 pieces) split
  have counted : (exactSegments msg).length = full.length + 2 := by
    rw [cut]
    simp [length_consecutiveFrames]
  refine ⟨after, ?_⟩
  rw [counted, cut, Machine.run_cons _ opened, ran]
  rfl

/-- The eight bytes again, the last two of them in a frame of their own length. -/
theorem exact_segments_eight_bytes :
    ∃ after, (IsoTpLink.machine 64).run (IsoTpLink.new 64) [[0x10, 8, 1, 2, 3, 4, 5, 6], [0x21, 7, 8]] =
      some ([.ok .needFlowControl, .ok (.complete [1, 2, 3, 4, 5, 6, 7, 8])], after) := by
  obtain ⟨after, ran⟩ := exact_segments_reassembled (IsoTpLink.new 64) [1, 2, 3, 4, 5, 6, 7, 8] (by decide) (by decide)
  have cut : exactSegments [1, 2, 3, 4, 5, 6, 7, 8] = [[0x10, 8, 1, 2, 3, 4, 5, 6], [0x21, 7, 8]] := by
    decide +kernel
  rw [cut] at ran
  exact ⟨after, ran⟩

end TptChassis.Proofs.IsoTpRoundTrip

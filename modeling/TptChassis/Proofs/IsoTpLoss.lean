import TptChassis.Proofs.IsoTpFrames
import TptChassis.Proofs.IsoTpReassembly
import TptChassis.Proofs.SimBuses

/-! Frames of one message that do not all arrive. A lost frame leaves a link short
of the declared length, so it completes nothing; and the buses of the simulator
lose frames and do nothing worse to them. -/

namespace TptChassis.Proofs.IsoTpLoss
open IsoTp IsoTpFeed IsoTpSegments IsoTpFrames IsoTpReassembly Slices

variable {N : Nat}

theorem reaches_progress {past : List (FeedStep N)} {start link : IsoTpLink N} (idle : start.receiving = false)
    (reached : (IsoTpLink.machine N).Reaches start past link) : InProgress past link := by
  induction reached with
  | start =>
    intro running
    cases idle.symm.trans running
  | call _ called ih => exact feed_keeps_progress ih called

/-- The Consecutive Frames a link accepted, in order of arrival. -/
def acceptedFrames (since : List (FeedStep N)) : List (List UInt8) :=
  ((since.filter (Accepted 2 ·)).map Step.input).reverse

theorem received_frames (since : List (FeedStep N)) :
    received since = ((acceptedFrames since).map consecutiveData).flatten := by
  rw [received, acceptedFrames, List.flatMap_def, List.map_reverse, List.map_reverse, List.map_map]
  rfl

theorem accepted_sublist (since : List (FeedStep N)) :
    List.Sublist (acceptedFrames since) (since.map Step.input).reverse :=
  (List.filter_sublist.map Step.input).reverse

/-- A link that was idle completes a message from a Single Frame, or from a First
Frame, the Consecutive Frames accepted since, and one more. -/
theorem complete_parts {past : List (FeedStep N)} {start link after : IsoTpLink N} {frame message : List UInt8}
    (idle : start.receiving = false) (reached : (IsoTpLink.machine N).Reaches start past link)
    (fed : link.feed frame = some (.ok (.complete message), after)) :
    (pciType frame = some 0 ∧ message = singleData frame) ∨
    (pciType frame = some 2 ∧ ∃ since first, Since past since first ∧ message.length = messageLength first.input ∧
      message = firstData first.input ++ ((acceptedFrames since ++ [frame]).map consecutiveData).flatten) := by
  cases feed_cases fed with
  | single type => exact .inl ⟨type, rfl⟩
  | completed type running next full copied =>
    obtain ⟨since, first, started, holds⟩ := reaches_progress idle reached running
    have bytes := holds.holding.copy copied
    rw [full] at bytes
    refine .inr ⟨type, since, first, started, ?_, ?_⟩
    · rw [bytes, List.length_append, ← holds.holding.filled, full, holds.total]
    · rw [bytes, received_frames]
      simp

theorem singleData_singleFrame {msg : List UInt8} (short : msg.length ≤ 7) : singleData (singleFrame msg) = msg := by
  rw [singleData, (singleFrame_reads short).2]
  exact List.take_left

theorem consecutiveFrames_bytes (sn : UInt8) (data : List (List UInt8)) :
    (consecutiveFrames sn data).map consecutiveData = data := by
  induction data generalizing sn with
  | nil => rfl
  | cons first rest ih =>
    rw [consecutiveFrames, List.map_cons, ih]
    rfl

theorem consecutiveFrames_type {frame : List UInt8} {data : List (List UInt8)}
    (member : frame ∈ consecutiveFrames 1 data) : pciType frame = some 2 := by
  obtain ⟨index, found⟩ := List.mem_iff_getElem?.mp member
  exact (consecutiveFrames_read found).1

theorem length_piece {rest piece : List UInt8} (member : piece ∈ pieces rest) : piece.length = 7 := by
  by_cases nonempty : 0 < rest.length
  · obtain ⟨full, last, split, sizes, _, _, bound, _⟩ := chunks_split (Nat.succ_pos 6) nonempty
    obtain ⟨chunk, inside, rfl⟩ := List.mem_map.mp member
    apply length_padded
    rw [isotpCfMax, split] at inside
    rcases List.mem_append.mp inside with whole | final
    · exact Nat.le_of_eq (sizes chunk whole)
    · rw [List.mem_singleton.mp final]
      exact bound
  · rw [pieces, chunks, dif_neg (by omega)] at member
    cases member

theorem length_flatten_pieces {taken : List (List UInt8)} (sizes : ∀ piece ∈ taken, piece.length = 7) :
    taken.flatten.length = 7 * taken.length := by
  rw [List.length_flatten, List.map_congr_left sizes, List.map_const', List.sum_replicate_nat, Nat.mul_comm]

/-- Pieces with as many bytes as the message has left are all its pieces, and none is padded. -/
theorem all_pieces {taken : List (List UInt8)} {rest : List UInt8} (nonempty : 0 < rest.length)
    (fewer : List.Sublist taken (pieces rest)) (total : taken.flatten.length = rest.length) :
    taken = pieces rest ∧ taken.flatten = rest := by
  obtain ⟨full, last, split, size, positive, bound, joined⟩ := pieces_split nonempty
  rw [length_flatten_pieces fun piece member => length_piece (fewer.subset member), ← joined, List.length_append, size] at total
  have same : taken = pieces rest := by
    apply fewer.eq_of_length
    rw [split, List.length_append, List.length_singleton]
    omega
  refine ⟨same, ?_⟩
  rw [same, split, List.length_append, List.length_singleton] at total
  rw [same, split, padded_full (by omega), List.flatten_append, List.flatten_singleton, joined]

/-- A First Frame and frames behind it, of those the encoder writes for one message. -/
theorem begins_first {msg first : List UInt8} {later : List (List UInt8)} (long : 7 < msg.length)
    (type : pciType first = some 1) (fewer : List.Sublist (first :: later) (segments msg)) :
    first = firstFrame msg ∧ List.Sublist later (consecutiveFrames 1 (pieces (msg.drop 6))) := by
  rw [segments_long long, List.cons_sublist_cons'] at fewer
  rcases fewer with behind | matched
  · have consecutive := consecutiveFrames_type (behind.subset List.mem_cons_self)
    cases type.symm.trans consecutive
  · exact matched

/-- What is put together from some of a message's frames has the declared length
only if it is put together from all of them. -/
theorem parts_whole {msg message first : List UInt8} {later : List (List UInt8)} (long : 7 < msg.length)
    (bounded : msg.length ≤ isotpMaxMessage) (type : pciType first = some 1)
    (fewer : List.Sublist (first :: later) (segments msg)) (length : message.length = messageLength first)
    (bytes : message = firstData first ++ (later.map consecutiveData).flatten) :
    message = msg ∧ (first :: later).length = (segments msg).length := by
  obtain ⟨rfl, behind⟩ := begins_first long type fewer
  have taken := behind.map consecutiveData
  have data : firstData (firstFrame msg) = msg.take 6 := rfl
  rw [consecutiveFrames_bytes] at taken
  rw [(firstFrame_reads bounded).2] at length
  rw [data] at bytes
  have rest : (later.map consecutiveData).flatten.length = (msg.drop 6).length := by
    rw [bytes, List.length_append, List.length_take] at length
    rw [List.length_drop]
    omega
  have nonempty : 0 < (msg.drop 6).length := by
    rw [List.length_drop]
    omega
  obtain ⟨all, joined⟩ := all_pieces nonempty taken rest
  refine ⟨by rw [bytes, joined, List.take_append_drop], ?_⟩
  rw [segments_long long, List.length_cons, List.length_cons, length_consecutiveFrames, ← all, List.length_map]

/-- However many of a message's frames are lost, a link that was idle completes
nothing from the others; from all of them it completes the message alone. -/
theorem lost_frames_complete_nothing {msg message : List UInt8} {start last : IsoTpLink N} {frames : List (List UInt8)}
    {outputs : List (Except IsoTpError IsoTpEvent)} (bounded : msg.length ≤ isotpMaxMessage)
    (idle : start.receiving = false) (arrived : List.Sublist frames (segments msg))
    (ran : (IsoTpLink.machine N).run start frames = some (outputs, last))
    (completed : .ok (.complete message) ∈ outputs) : message = msg ∧ frames = segments msg := by
  obtain ⟨later, reached, rfl, rfl⟩ := Machine.Reaches.run .start ran
  obtain ⟨step, member, answered⟩ := List.mem_map.mp (List.mem_reverse.mp completed)
  obtain ⟨since, earlier, rfl⟩ := List.append_of_mem member
  rw [List.append_nil] at reached
  obtain ⟨before, fed⟩ := reached.earlier
  rw [answered] at fed
  have here := arrived.subset (List.mem_reverse.mpr (List.mem_map_of_mem member))
  by_cases short : msg.length ≤ 7
  · rw [segments_short short] at here arrived ⊢
    have only := List.mem_singleton.mp here
    rcases complete_parts idle before fed with ⟨_, same⟩ | ⟨type, _⟩
    · rw [only, singleData_singleFrame short] at same
      refine ⟨same, arrived.eq_of_length_le ?_⟩
      rw [List.length_reverse, List.length_map, List.length_append]
      exact Nat.le_add_left_of_le (Nat.succ_le_succ (Nat.zero_le _))
    · rw [only, (singleFrame_reads short).1] at type
      cases type
  · have long := Nat.lt_of_not_le short
    rcases complete_parts idle before fed with ⟨type, _⟩ | ⟨_, taken, first, started, length, bytes⟩
    · rw [segments_long long] at here
      rcases List.mem_cons.mp here with opening | behind
      · rw [opening, (firstFrame_reads bounded).1] at type
        cases type
      · cases type.symm.trans (consecutiveFrames_type behind)
    · obtain ⟨oldest, rfl⟩ := started.split
      have kept : List.Sublist (first.input :: (acceptedFrames taken ++ [step.input]))
          ((since ++ step :: (taken ++ first :: oldest)).map Step.input).reverse := by
        simp only [List.map_append, List.map_cons, List.reverse_append, List.reverse_cons, List.append_assoc]
        apply List.Sublist.trans _ (List.sublist_append_right _ _)
        apply List.Sublist.cons_cons
        exact (accepted_sublist taken).append (List.sublist_append_left _ _)
      obtain ⟨same, count⟩ := parts_whole long bounded started.first.1 (kept.trans arrived) length bytes
      exact ⟨same, arrived.eq_of_length_le (count ▸ kept.length_le)⟩

theorem encoded_segments {msg : List UInt8} {out written : List Frame} {count : Nat}
    (encoded : encodeMessage msg out = some (.ok count, written)) :
    msg.length ≤ isotpMaxMessage ∧ (written.take count).map Buffer.elements = segments msg := by
  refine ⟨?_, (encodeMessage_ok encoded).2⟩
  apply Nat.le_of_not_lt
  intro long
  rw [encodeMessage, if_pos long] at encoded
  cases encoded

theorem elements_whole {written : List Frame} {frames : List (List UInt8)}
    (arrived : List.Sublist frames (written.map Buffer.elements)) : ∀ frame ∈ frames, frame.length = 8 := by
  intro frame member
  obtain ⟨buffer, _, rfl⟩ := List.mem_map.mp (arrived.subset member)
  exact buffer.sized

/-- A link that can hold seven bytes survives whole frames. -/
theorem run_whole {frames : List (List UInt8)} (wide : 7 ≤ N) (sizes : ∀ frame ∈ frames, frame.length = 8)
    {start : IsoTpLink N} (bounded : Bounded start) :
    ∃ outputs last, (IsoTpLink.machine N).run start frames = some (outputs, last) := by
  induction frames generalizing start with
  | nil => exact ⟨[], start, rfl⟩
  | cons frame rest ih =>
    have size := sizes frame List.mem_cons_self
    have whole : ¬ Truncated N frame := by
      intro truncated
      obtain ⟨first, rfl, _⟩ := truncated
      cases size
    obtain ⟨⟨output, next⟩, fed⟩ := Option.isSome_iff_exists.mp (feed_progress wide (Nat.le_of_eq size) bounded whole)
    obtain ⟨outputs, last, ran⟩ := ih (fun other member => sizes other (List.mem_cons_of_mem _ member))
      (feed_bounded (Nat.le_of_eq size) bounded fed)
    exact ⟨output :: outputs, last, by rw [Machine.run_cons rest fed, ran]; rfl⟩

theorem idle_bounded {start : IsoTpLink N} (idle : start.receiving = false) : Bounded start := by
  intro running
  cases idle.symm.trans running

/-- However many of the frames that `encode_message` wrote are lost, a link that was
idle takes the others and completes nothing; from all of them it completes at most the
message that was encoded. -/
theorem lossy_link_completes {msg : List UInt8} {out written : List Frame} {count : Nat}
    (encoded : encodeMessage msg out = some (.ok count, written)) (wide : 7 ≤ N) {start : IsoTpLink N}
    (idle : start.receiving = false) {frames : List (List UInt8)}
    (arrived : List.Sublist frames ((written.take count).map Buffer.elements)) :
    ∃ outputs last, (IsoTpLink.machine N).run start frames = some (outputs, last) ∧
      ∀ message, .ok (.complete message) ∈ outputs →
        message = msg ∧ frames = (written.take count).map Buffer.elements := by
  obtain ⟨bounded, elements⟩ := encoded_segments encoded
  obtain ⟨outputs, last, ran⟩ := run_whole wide (elements_whole arrived) (idle_bounded idle)
  refine ⟨outputs, last, ran, ?_⟩
  intro message completed
  rw [elements] at arrived ⊢
  exact lost_frames_complete_nothing bounded idle arrived ran completed

theorem lossy_link_completes_without_first :
    ∃ outputs last, (IsoTpLink.machine 64).run (IsoTpLink.new 64) [[0x21, 6, 7, 8, 9, 10, 11, 12]] = some (outputs, last) ∧
      ∀ message, .ok (.complete message) ∈ outputs → message = [0, 1, 2, 3, 4, 5, 6, 7, 8, 9, 10, 11, 12] ∧
        [[(0x21 : UInt8), 6, 7, 8, 9, 10, 11, 12]] = [[0x10, 13, 0, 1, 2, 3, 4, 5], [0x21, 6, 7, 8, 9, 10, 11, 12]] := by
  have encoded : encodeMessage [0, 1, 2, 3, 4, 5, 6, 7, 8, 9, 10, 11, 12] [zeroFrame, zeroFrame] =
      some (.ok 2, [⟨[0x10, 13, 0, 1, 2, 3, 4, 5], rfl⟩, ⟨[0x21, 6, 7, 8, 9, 10, 11, 12], rfl⟩]) := by
    decide +kernel
  exact lossy_link_completes encoded (by decide) rfl (List.sublist_cons_self _ _)

/-- The frames of a message sent to a node of the simulated CAN network, through the
checked bus and between whatever else happens there: what the node has received of
them makes its link complete that message or nothing. -/
theorem lossy_bus_completes {msg : List UInt8} {out written : List Frame} {count : Nat}
    (encoded : encodeMessage msg out = some (.ok count, written)) (wide : 7 ≤ N) {start : IsoTpLink N}
    (idle : start.receiving = false) {past : List (SimBuses.BusStep Unit Bus.CanFrame)} {network : Sim.SimCanNetwork}
    (reached : Sim.SimCanNetwork.busMachine.Reaches Sim.Network.new past network) (node : Nat)
    (sent : (SimDelivery.sentByOthers node (past.filterMap (SimBuses.carried BusGate.ValidCan))).map Bus.CanFrame.payload =
      ((written.take count).map Buffer.elements).map some) :
    ∃ frames outputs last,
      (SimDelivery.received node (past.filterMap (SimBuses.carried BusGate.ValidCan))).map Bus.CanFrame.payload =
        frames.map some ∧
      (IsoTpLink.machine N).run start frames = some (outputs, last) ∧
      ∀ message, .ok (.complete message) ∈ outputs →
        message = msg ∧ frames = (written.take count).map Buffer.elements := by
  have delivered := (SimDelivery.simulator_delivers Unit Bus.CanFrame Sim.simRxQueueLen).ordered _ _
    (SimBuses.reaches_carried BusGate.canFrame_checks reached) node
  have fewer := ((List.sublist_append_left _ _).trans delivered).map Bus.CanFrame.payload
  rw [sent, List.sublist_map_iff] at fewer
  obtain ⟨frames, arrived, payloads⟩ := fewer
  obtain ⟨bounded, elements⟩ := encoded_segments encoded
  obtain ⟨outputs, last, ran⟩ := run_whole wide (elements_whole arrived) (idle_bounded idle)
  refine ⟨frames, outputs, last, payloads, ran, ?_⟩
  intro message completed
  rw [elements] at arrived ⊢
  exact lost_frames_complete_nothing bounded idle arrived ran completed

theorem lossy_bus_completes_partway :
    ∃ frames outputs last, [some [(0x10 : UInt8), 13, 0, 1, 2, 3, 4, 5]] = frames.map some ∧
      (IsoTpLink.machine 64).run (IsoTpLink.new 64) frames = some (outputs, last) ∧
      ∀ message, .ok (.complete message) ∈ outputs → message = [0, 1, 2, 3, 4, 5, 6, 7, 8, 9, 10, 11, 12] ∧
        frames = [[0x10, 13, 0, 1, 2, 3, 4, 5], [0x21, 6, 7, 8, 9, 10, 11, 12]] := by
  have encoded : encodeMessage [0, 1, 2, 3, 4, 5, 6, 7, 8, 9, 10, 11, 12] [zeroFrame, zeroFrame] =
      some (.ok 2, [⟨[0x10, 13, 0, 1, 2, 3, 4, 5], rfl⟩, ⟨[0x21, 6, 7, 8, 9, 10, 11, 12], rfl⟩]) := by
    decide +kernel
  have reached : Sim.SimCanNetwork.busMachine.Reaches Sim.Network.new _ _ :=
    .call (.call (.call (.call (.call .start
      (show Sim.SimCanNetwork.busMachine.step _ (.node ()) = some (_, _) from rfl))
      (show Sim.SimCanNetwork.busMachine.step _ (.node ()) = some (_, _) from rfl))
      (show Sim.SimCanNetwork.busMachine.step _ (.call 0 (.transmit
        ⟨⟨0x600, false⟩, ⟨[0x10, 13, 0, 1, 2, 3, 4, 5], rfl⟩, 8⟩)) = some (_, _) from rfl))
      (show Sim.SimCanNetwork.busMachine.step _ (.call 0 (.transmit
        ⟨⟨0x600, false⟩, ⟨[0x21, 6, 7, 8, 9, 10, 11, 12], rfl⟩, 8⟩)) = some (_, _) from rfl))
      (show Sim.SimCanNetwork.busMachine.step _ (.call 1 .receive) = some (_, _) from rfl)
  exact lossy_bus_completes encoded (by decide) rfl reached 1 rfl

end TptChassis.Proofs.IsoTpLoss

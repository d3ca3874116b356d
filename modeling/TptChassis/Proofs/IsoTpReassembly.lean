import TptChassis.Proofs.IsoTpFeed

/-! A completed message is one message. The link keeps no frames, only a buffer
that earlier messages have written to, so the invariant ties that buffer to the
frames accepted since the latest First Frame. -/

namespace TptChassis.Proofs.IsoTpReassembly
open IsoTp IsoTpFeed Slices

variable {N : Nat}

abbrev FeedStep (N : Nat) := Step (IsoTpLink N) (List UInt8) (Except IsoTpError IsoTpEvent)

/-- A frame of this PCI type for which `feed` returned `Ok`. -/
def Accepted (type : UInt8) (step : FeedStep N) : Prop :=
  pciType step.input = some type ∧ step.output.isOk = true

instance (type : UInt8) : DecidablePred (Accepted (N := N) type) :=
  fun step => inferInstanceAs (Decidable (pciType step.input = some type ∧ step.output.isOk = true))

/-- The data of the accepted Consecutive Frames, in order of arrival. The calls
are listed with the latest first. -/
def received (since : List (FeedStep N)) : List UInt8 :=
  (since.filter (Accepted 2 ·)).reverse.flatMap (fun step => consecutiveData step.input)

theorem received_accepted {step : FeedStep N} (accepted : Accepted 2 step) (since : List (FeedStep N)) :
    received (step :: since) = received since ++ consecutiveData step.input := by
  simp [received, accepted]

theorem received_ignored {step : FeedStep N} (ignored : ¬ Accepted 2 step) (since : List (FeedStep N)) :
    received (step :: since) = received since := by
  simp [received, ignored]

/-- The calls since the latest accepted First Frame, none of which accepted
another First Frame or a Single Frame. -/
structure Since (past since : List (FeedStep N)) (first : FeedStep N) : Prop where
  split : ∃ earlier, past = since ++ first :: earlier
  first : Accepted 1 first
  others : ∀ step ∈ since, ¬ Accepted 1 step ∧ ¬ Accepted 0 step

theorem Since.begin {first : FeedStep N} (accepted : Accepted 1 first) (earlier : List (FeedStep N)) :
    Since (first :: earlier) [] first :=
  ⟨⟨earlier, rfl⟩, accepted, by simp⟩

theorem Since.next {past since : List (FeedStep N)} {first step : FeedStep N} (started : Since past since first)
    (other : ¬ Accepted 1 step ∧ ¬ Accepted 0 step) : Since (step :: past) (step :: since) first := by
  obtain ⟨earlier, rfl⟩ := started.split
  exact ⟨⟨earlier, rfl⟩, started.first, List.forall_mem_cons.mpr ⟨other, started.others⟩⟩

/-- What the link holds while receiving: the declared length, and the bytes
accepted since the First Frame. -/
structure Holds (link : IsoTpLink N) (since : List (FeedStep N)) (first : FeedStep N) : Prop where
  total : link.total = messageLength first.input
  holding : Holding link (firstData first.input ++ received since)

def InProgress (past : List (FeedStep N)) (link : IsoTpLink N) : Prop :=
  link.receiving = true → ∃ since first, Since past since first ∧ Holds link since first

private theorem error_ignored {link after : IsoTpLink N} {frame : List UInt8} {error : IsoTpError} (type : UInt8) :
    ¬ Accepted type ⟨link, frame, .error error, after⟩ :=
  fun accepted => Bool.false_ne_true accepted.2

private theorem type_unique {step : FeedStep N} {type other : UInt8} (seen : pciType step.input = some type)
    (different : other ≠ type) : ¬ Accepted other step :=
  fun accepted => different (Option.some.inj (accepted.1.symm.trans seen))

/-- A rejected frame leaves the bytes, the length and the history of accepted
frames as they were. -/
private theorem error_keeps {past : List (FeedStep N)} {link after : IsoTpLink N} {frame : List UInt8}
    {error : IsoTpError} (progress : InProgress past link)
    (same : after.buf = link.buf ∧ after.total = link.total ∧ after.filled = link.filled ∧
      after.receiving = link.receiving) :
    InProgress (⟨link, frame, .error error, after⟩ :: past) after := by
  obtain ⟨buf, total, filled, receiving⟩ := same
  intro running
  obtain ⟨since, first, started, holds⟩ := progress (receiving ▸ running)
  refine ⟨_, first, started.next ⟨error_ignored 1, error_ignored 0⟩, ?_⟩
  refine ⟨total.trans holds.total, ?_, ?_⟩
  · rw [received_ignored (error_ignored 2), filled, holds.holding.filled]
  · rw [received_ignored (error_ignored 2), filled, buf, holds.holding.bytes]

theorem feed_keeps_progress {past : List (FeedStep N)} {link after : IsoTpLink N} {frame : List UInt8} {output}
    (progress : InProgress past link) (fed : link.feed frame = some (output, after)) :
    InProgress (⟨link, frame, output, after⟩ :: past) after := by
  cases feed_cases fed with
  | rejected => exact error_keeps progress ⟨rfl, rfl, rfl, rfl⟩
  | overflowed => exact error_keeps progress ⟨rfl, rfl, rfl, rfl⟩
  | single =>
    intro running
    cases running
  | first type whole declared copied =>
    refine fun _ => ⟨[], _, Since.begin ⟨type, rfl⟩ past, rfl, ?_, ?_⟩
    · simp [received]
    · obtain ⟨_, elements⟩ := Buffer.copy_elements copied
      simpa [received, elements] using take_overwrite_zero link.buf.elements (firstData frame)
  | continued type running next short copied =>
    intro _
    obtain ⟨since, first, started, holds⟩ := progress running
    refine ⟨_, first, started.next ⟨type_unique type (by decide), type_unique type (by decide)⟩, holds.total, ?_, ?_⟩
    · rw [received_accepted ⟨type, rfl⟩, ← List.append_assoc, List.length_append, ← holds.holding.filled]
    · rw [received_accepted ⟨type, rfl⟩, ← List.append_assoc]
      exact holds.holding.copy copied
  | completed =>
    intro running
    cases running

theorem reaches_in_progress {past : List (FeedStep N)} {link : IsoTpLink N}
    (reached : (IsoTpLink.machine N).Reaches (IsoTpLink.new N) past link) : InProgress past link := by
  induction reached with
  | start =>
    intro running
    cases running
  | call _ called ih => exact feed_keeps_progress ih called

/-- Whatever was fed before, a completed message is either the declared data of
the Single Frame just fed, or has the length the latest accepted First Frame
declared and consists of its data and that of the Consecutive Frames accepted
since, the last of them just fed. -/
theorem complete_is_one_message {past : List (FeedStep N)} {link after : IsoTpLink N} {frame message : List UInt8}
    (reached : (IsoTpLink.machine N).Reaches (IsoTpLink.new N) past link)
    (fed : link.feed frame = some (.ok (.complete message), after)) :
    (pciType frame = some 0 ∧ message = singleData frame ∧ message.length = (lowNibble frame).toNat) ∨
    (pciType frame = some 2 ∧ ∃ since first, Since past since first ∧
      message.length = messageLength first.input ∧
      message = firstData first.input ++ received since ++ consecutiveData frame) := by
  cases feed_cases fed with
  | single type declared copied =>
    refine .inl ⟨type, rfl, ?_⟩
    simp only [singleData, List.length_take, List.length_drop]
    omega
  | completed type running next full copied =>
    obtain ⟨since, first, started, holds⟩ := reaches_in_progress reached running
    have bytes := holds.holding.copy copied
    rw [full] at bytes
    refine .inr ⟨type, since, first, started, ?_, bytes⟩
    rw [bytes, List.length_append, ← holds.holding.filled, full, holds.total]

theorem complete_ten_bytes :
    ∃ (past : List (FeedStep 16)) (link after : IsoTpLink 16),
      (IsoTpLink.machine 16).Reaches (IsoTpLink.new 16) past link ∧
      link.feed [0x21, 7, 8, 9, 10] = some (.ok (.complete [1, 2, 3, 4, 5, 6, 7, 8, 9, 10]), after) ∧
      ((pciType [0x21, 7, 8, 9, 10] = some 0 ∧
          [1, 2, 3, 4, 5, 6, 7, 8, 9, 10] = singleData [0x21, 7, 8, 9, 10] ∧
          [1, 2, 3, 4, 5, 6, 7, 8, 9, 10].length = (lowNibble [0x21, 7, 8, 9, 10]).toNat) ∨
        (pciType [0x21, 7, 8, 9, 10] = some 2 ∧ ∃ since first, Since past since first ∧
          [1, 2, 3, 4, 5, 6, 7, 8, 9, 10].length = messageLength first.input ∧
          [1, 2, 3, 4, 5, 6, 7, 8, 9, 10] =
            firstData first.input ++ received since ++ consecutiveData [0x21, 7, 8, 9, 10])) := by
  have begun : (IsoTpLink.machine 16).step (IsoTpLink.new 16) [0x10, 10, 1, 2, 3, 4, 5, 6] =
    some (.ok .needFlowControl, _) := rfl
  have reached := Machine.Reaches.call .start begun
  exact ⟨_, _, _, reached, rfl, complete_is_one_message reached rfl⟩

end TptChassis.Proofs.IsoTpReassembly

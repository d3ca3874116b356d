import TptChassis.Proofs.IsoTpFeed

/-! Rejected frames. Every error but one is found before the link changes; the
Consecutive Frame that would overrun its message is rejected after the sequence
number has moved on, and the sender's next frame no longer matches. -/

namespace TptChassis.Proofs.IsoTpRejection
open IsoTp IsoTpFeed Slices

variable {N : Nat}

/-- A Consecutive Frame with the awaited number whose data goes beyond the
declared length of the message. -/
def Overruns (link : IsoTpLink N) (frame : List UInt8) : Prop :=
  pciType frame = some 2 ∧ link.receiving = true ∧ lowNibble frame = link.sn ∧
    link.total < link.filled + (consecutiveData frame).length

/-- If the frame is rejected, the link stays as it is, and frames that follow are
treated as if it had not arrived. -/
def Undisturbed (link : IsoTpLink N) (frame : List UInt8) : Prop :=
  ∀ error after, link.feed frame = some (.error error, after) → after = link ∧
    ∀ rest, (IsoTpLink.machine N).run link (frame :: rest) =
      ((IsoTpLink.machine N).run link rest).map fun result => (.error error :: result.1, result.2)

private theorem next_differs (sn : UInt8) : (sn + 1) &&& 0x0F ≠ sn := by
  intro same
  have nibble : ((sn + 1) &&& 0x0F).toNat = (sn.toNat + 1) % 256 % 16 := by
    rw [UInt8.toNat_and, UInt8.toNat_add]
    exact Nat.and_two_pow_sub_one_eq_mod _ 4
  rw [same] at nibble
  omega

theorem feed_overruns {link : IsoTpLink N} {frame : List UInt8} (overruns : Overruns link frame) :
    link.feed frame = some (.error .overflow, { link with sn := (link.sn + 1) &&& 0x0F }) := by
  obtain ⟨type, running, next, long⟩ := overruns
  cases frame with
  | nil => cases type
  | cons first rest =>
    have sequence : ¬ first &&& 0x0F ≠ link.sn := Classical.not_not.mpr next
    have bytes : slice (first :: rest) 1 (first :: rest).length = some (consecutiveData (first :: rest)) :=
      slice_back (by simp)
    have exceeds : link.filled + (consecutiveData (first :: rest)).length > link.total := long
    simp only [feed_two link (Option.some.inj type), IsoTpLink.feedConsecutive, running, Bool.true_eq_false,
      if_false, if_neg sequence, Option.bind_eq_bind, Option.pure_def, bytes, Option.bind_some,
      if_pos exceeds]

theorem feed_error {link after : IsoTpLink N} {frame : List UInt8} {error : IsoTpError} (fits : ¬ Overruns link frame)
    (fed : link.feed frame = some (.error error, after)) : after = link := by
  cases feed_cases fed with
  | rejected => rfl
  | overflowed type running next long => exact absurd ⟨type, running, next, long⟩ fits

theorem undisturbed_iff (link : IsoTpLink N) (frame : List UInt8) : Undisturbed link frame ↔ ¬ Overruns link frame := by
  constructor
  · intro undisturbed overruns
    have same := (undisturbed _ _ (feed_overruns overruns)).1
    exact next_differs link.sn (congrArg IsoTpLink.sn same)
  · intro fits error after fed
    have same := feed_error fits fed
    subst same
    exact ⟨rfl, fun rest => Machine.run_cons rest fed⟩

/-- A rejected frame leaves no trace exactly when it does not overrun the message
in progress. In a run where no frame overruns, the accepted frames alone bring
the link to where it is. -/
theorem rejected_undisturbed_iff (N : Nat) :
    (∀ (link : IsoTpLink N) (frame : List UInt8), Undisturbed link frame ↔ ¬ Overruns link frame) ∧
      ∀ past link, (IsoTpLink.machine N).Reaches (IsoTpLink.new N) past link →
        (∀ step ∈ past, ¬ Overruns step.before step.input) →
        (IsoTpLink.machine N).Reaches (IsoTpLink.new N) (past.filter fun step => step.output.isOk) link := by
  refine ⟨undisturbed_iff, ?_⟩
  intro past link reached fit
  apply reached.filter
  intro step member rejected
  obtain ⟨_, _, fed⟩ := reached.called member
  cases answer : step.output with
  | ok event =>
    rw [answer] at rejected
    cases rejected
  | error error =>
    rw [answer] at fed
    exact feed_error (fit step member) fed

theorem rejected_flow_control :
    ∃ past link, (IsoTpLink.machine 64).Reaches (IsoTpLink.new 64) past link ∧ past.length = 2 ∧
      (past.filter fun step => step.output.isOk).length = 1 ∧
      (IsoTpLink.machine 64).Reaches (IsoTpLink.new 64) (past.filter fun step => step.output.isOk) link := by
  obtain ⟨link, begun⟩ : ∃ link, (IsoTpLink.machine 64).step (IsoTpLink.new 64) [0x10, 0x08, 1, 2, 3, 4, 5, 6] =
    some (.ok .needFlowControl, link) := ⟨_, rfl⟩
  have rejected : (IsoTpLink.machine 64).step link [0x30, 0, 0] = some (.error .invalidPci, link) := rfl
  have reached := Machine.Reaches.call (.call .start begun) rejected
  refine ⟨_, _, reached, rfl, rfl, (rejected_undisturbed_iff 64).2 _ _ reached ?_⟩
  intro step member given
  obtain ⟨type, _⟩ := given
  rcases List.mem_cons.mp member with same | member
  · cases same
    cases type
  · cases List.mem_singleton.mp member
    cases type

/-- A padded frame is rejected, and the frame that would have ended the message
comes with a number that is no longer awaited. -/
theorem rejected_disturbs :
    ¬ ∀ (N : Nat), 7 ≤ N → ∀ past link, (IsoTpLink.machine N).Reaches (IsoTpLink.new N) past link →
        ∀ frame : List UInt8, 2 ≤ frame.length → frame.length ≤ 8 → Undisturbed link frame := by
  intro claimed
  have begun : (IsoTpLink.machine 64).step (IsoTpLink.new 64) [0x10, 0x08, 1, 2, 3, 4, 5, 6] =
    some (.ok .needFlowControl, _) := rfl
  have undisturbed := claimed 64 (by decide) _ _ (.call .start begun) [0x21, 7, 8, 0, 0, 0, 0, 0] (by decide) (by decide)
  have same := (undisturbed .overflow _ rfl).1
  cases congrArg IsoTpLink.sn same

end TptChassis.Proofs.IsoTpRejection

import TptChassis.AglCan
import TptChassis.Library.Queues
import TptChassis.Proofs.BusGate

/-! The loopback of the AGL transceiver behind its bus is a queue of 64 places: what
was accepted comes out once, in order, and a full queue refuses instead of dropping. -/

namespace TptChassis.Proofs.AglLoopback
open Bus AglCan BusGate Machine

/-- What each call does to the transceiver. -/
inductive Loops (before : AglCanTransceiver) : BusCall CanFrame → BusReply CanFrame → AglCanTransceiver → Prop where
  | queued {frame} (holds : ValidCan frame) (room : before.loopback.length < 64) :
      Loops before (.transmit frame) (.transmitted (.ok ())) { before with loopback := before.loopback ++ [frame] }
  | full {frame} (holds : ValidCan frame) (full : 64 ≤ before.loopback.length) :
      Loops before (.transmit frame) (.transmitted (.error .txQueueFull)) before
  | refused {frame} (invalid : ¬ ValidCan frame) :
      Loops before (.transmit frame) (.transmitted (.error .invalidFrame)) before
  | received {frame rest} (waiting : before.loopback = frame :: rest) :
      Loops before .receive (.received (.ok frame)) { before with loopback := rest }
  | empty (nothing : before.loopback = []) :
      Loops before .receive (.received (.error .rxQueueEmpty)) before
  | readable {answer} (told : answer = true ↔ before.loopback ≠ []) :
      Loops before .canReceive (.answered answer) before
  | writable {answer} (told : answer = true ↔ before.loopback.length < 64) :
      Loops before .canTransmit (.answered answer) before

abbrev BusStep := Step AglCanTransceiver (BusCall CanFrame) (BusReply CanFrame)

/-- The frame that a step accepts. -/
def accepted (step : BusStep) : List CanFrame :=
  match step.input, step.output with
  | .transmit frame, .transmitted (.ok ()) => [frame]
  | _, _ => []

def delivered (step : BusStep) : List CanFrame :=
  match step.output with
  | .received (.ok frame) => [frame]
  | _ => []

theorem step_loops (before : AglCanTransceiver) (call : BusCall CanFrame) :
    ∃ reply after, machine.step before call = some (reply, after) ∧ Loops before call reply after := by
  cases call with
  | transmit frame =>
    by_cases holds : ValidCan frame
    · have passes : machine.step before (.transmit frame) =
          some (.transmitted (before.send frame).1, (before.send frame).2) := by
        apply (step_admitted canFrame_checks AglCanTransceiver.transceiver before _).trans rfl
        intro other same
        cases same
        exact holds
      by_cases full : 64 ≤ before.loopback.length
      · rw [AglCanTransceiver.send, if_pos full] at passes
        exact ⟨_, _, passes, .full holds full⟩
      · rw [AglCanTransceiver.send, if_neg full] at passes
        exact ⟨_, _, passes, .queued holds (Nat.lt_of_not_le full)⟩
    · exact ⟨_, _, step_refused canFrame_checks AglCanTransceiver.transceiver before holds, .refused holds⟩
  | receive =>
    have passes : machine.step before .receive = some (.received before.recv.1, before.recv.2) := rfl
    unfold AglCanTransceiver.recv at passes
    split at passes
    next nothing => exact ⟨_, _, passes, .empty nothing⟩
    next frame rest waiting => exact ⟨_, _, passes, .received waiting⟩
  | canReceive =>
    refine ⟨_, _, rfl, .readable ?_⟩
    change (!before.loopback.isEmpty) = true ↔ _
    simp
  | canTransmit => exact ⟨_, _, rfl, .writable decide_eq_true_iff⟩

theorem stepped {before after : AglCanTransceiver} {call : BusCall CanFrame} {reply : BusReply CanFrame}
    (called : machine.step before call = some (reply, after)) : Loops before call reply after := by
  obtain ⟨other, next, found, loops⟩ := step_loops before call
  cases called.symm.trans found
  exact loops

theorem machine_conserves : machine.Conserves AglCanTransceiver.loopback accepted delivered := by
  intro before call reply after called
  cases stepped called with
  | queued => rfl
  | full => exact List.append_nil _
  | refused => exact List.append_nil _
  | received waiting => exact (List.append_nil _).trans waiting
  | empty => exact List.append_nil _
  | readable => exact List.append_nil _
  | writable => exact List.append_nil _

theorem step_bounded {before after : AglCanTransceiver} {call : BusCall CanFrame} {reply : BusReply CanFrame}
    (bounded : before.loopback.length ≤ 64) (called : machine.step before call = some (reply, after)) :
    after.loopback.length ≤ 64 := by
  cases stepped called with
  | queued _ room =>
    rw [List.length_append, List.length_singleton]
    exact room
  | full => exact bounded
  | refused => exact bounded
  | received waiting =>
    rw [waiting, List.length_cons] at bounded
    exact Nat.le_of_succ_le bounded
  | empty => exact bounded
  | readable => exact bounded
  | writable => exact bounded

/-- The transceiver as a bounded queue, along every run from a new one. -/
structure Queues (start : AglCanTransceiver) : Prop where
  answers : ∀ state call, ∃ reply after, machine.step state call = some (reply, after)
  steps : ∀ past state, machine.Reaches start past state → ∀ step ∈ past,
    Loops step.before step.input step.output step.after
  ordered : ∀ past state, machine.Reaches start past state →
    gathered accepted past = gathered delivered past ++ state.loopback
  bounded : ∀ past state, machine.Reaches start past state → state.loopback.length ≤ 64
  waiting : ∀ past state, machine.Reaches start past state →
    (gathered accepted past).length ≤ (gathered delivered past).length + 64

/-- In every order of calls no frame that the bus accepted is lost, doubled or
overtaken; a transmission is refused exactly if 64 accepted frames are still waiting. -/
theorem loopback_queues (iface : String) : Queues (.new iface) := by
  have ordered : ∀ past state, machine.Reaches (.new iface) past state →
      gathered accepted past = gathered delivered past ++ state.loopback :=
    fun past state reached => reached.conserved machine_conserves
  have bounded : ∀ past state, machine.Reaches (.new iface) past state → state.loopback.length ≤ 64 := by
    intro past state reached
    apply reached.invariant
    · exact Nat.zero_le _
    · intro before call reply after bounded called
      exact step_bounded bounded called
  refine ⟨?_, ?_, ordered, bounded, ?_⟩
  · intro state call
    obtain ⟨reply, after, called, _⟩ := step_loops state call
    exact ⟨reply, after, called⟩
  · intro past state reached step member
    obtain ⟨_, _, called⟩ := reached.called member
    exact stepped called
  · intro past state reached
    rw [ordered past state reached, List.length_append]
    exact Nat.add_le_add_left (bounded past state reached) _

end TptChassis.Proofs.AglLoopback

import TptChassis.Library.Wrappers
import TptChassis.VehicleBus

/-! The buses are gates in front of their transceivers: a frame that its protocol
does not allow is refused and goes no further. -/

namespace TptChassis.Proofs.BusGate
open Bus SomeIp Slices

universe u

variable {σ : Type u} {φ : Type}

def ValidId (id : CanId) : Prop := id.raw ≤ if id.extended then CanId.extendedMax else CanId.standardMax

def ValidCan (frame : CanFrame) : Prop := frame.len.toNat ≤ canMaxDlc ∧ ValidId frame.id

def ValidCanFd (frame : CanFdFrame) : Prop := frame.len.toNat ≤ canFdMaxDlc ∧ ValidId frame.id

def ValidLin (frame : LinFrame) : Prop := frame.len.toNat ≤ linMaxDlc

def ValidSomeIp (message : SomeIpMessage) : Prop :=
  message.payloadLen.toNat ≤ someipMaxPayload ∧
    (message.header.messageType = .request → message.header.messageId.service ≠ 0)

instance (id : CanId) : Decidable (ValidId id) := inferInstanceAs (Decidable (_ ≤ _))
instance : DecidablePred ValidCan := fun _ => inferInstanceAs (Decidable (_ ∧ _))
instance : DecidablePred ValidCanFd := fun _ => inferInstanceAs (Decidable (_ ∧ _))
instance : DecidablePred ValidLin := fun _ => inferInstanceAs (Decidable (_ ≤ _))
instance : DecidablePred ValidSomeIp := fun _ => inferInstanceAs (Decidable (_ ∧ _))

/-- The valid identifiers are those that a constructor makes. -/
theorem validId_iff (id : CanId) :
    ValidId id ↔ CanId.newStandard id.raw = some id ∨ CanId.newExtended id.raw = some id := by
  rw [CanId.newStandard, CanId.newExtended, Option.ite_none_right_eq_some, Option.ite_none_right_eq_some]
  obtain ⟨raw, extended⟩ := id
  cases extended with
  | false => simp [ValidId]
  | true => simp [ValidId]

/-- What a bus is for: it refuses the frames that are not valid, and passes on
every other call with its reply. -/
def gate (valid : φ → Prop) [DecidablePred valid] : Wrapper Unit (BusCall φ) (BusReply φ) (BusCall φ) (BusReply φ) where
  mode _ _ := ()
  pass
    | _, .transmit frame => if valid frame then some (.transmit frame) else none
    | _, call => some call
  answer _ _ reply := reply.getD (.transmitted (.error .invalidFrame))

/-- A check by which exactly the valid frames are let through. -/
def Checks (validate : φ → Except BusError Unit) (valid : φ → Prop) [DecidablePred valid] : Prop :=
  ∀ frame, validate frame = if valid frame then .ok () else .error .invalidFrame

theorem checks_of {validate : φ → Except BusError Unit} {valid : φ → Prop} [DecidablePred valid]
    (admits : ∀ frame, valid frame → validate frame = .ok ())
    (refuses : ∀ frame, ¬ valid frame → validate frame = .error .invalidFrame) : Checks validate valid := by
  intro frame
  split
  next holds => exact admits frame holds
  next fails => exact refuses frame fails

theorem id_tested {ε : Type} (error : ε) (id : CanId) :
    (if id.raw > (if id.extended then CanId.extendedMax else CanId.standardMax) then .error error else .ok ()) =
      if ValidId id then (.ok () : Except ε Unit) else .error error := by
  by_cases valid : ValidId id
  · rw [if_pos valid]
    exact if_neg (UInt32.not_lt.mpr valid)
  · rw [if_neg valid]
    exact if_pos (UInt32.not_le.mp valid)

/-- A frame with an identifier passes two tests, of its length and of its identifier. -/
theorem both_tested {ε : Type} (error : ε) (len bound : Nat) (id : CanId) :
    (if len > bound then .error error
      else if id.raw > (if id.extended then CanId.extendedMax else CanId.standardMax) then .error error else .ok ()) =
      if len ≤ bound ∧ ValidId id then (.ok () : Except ε Unit) else .error error := by
  rw [id_tested]
  by_cases long : len > bound
  · rw [if_pos long, if_neg (fun valid => Nat.not_le.mpr long valid.1)]
  · simp only [if_neg long, Nat.le_of_not_lt long, true_and]

theorem canFrame_checks : Checks (fun frame : CanFrame => frame.validateFrame.mapError invalidFrameErr) ValidCan := by
  intro frame
  have tested : frame.validateFrame = if ValidCan frame then .ok () else .error .invalidArgument :=
    both_tested _ _ _ _
  simp only [tested]
  split <;> rfl

theorem canFdFrame_checks : Checks CanFdFrame.validateFdFrame ValidCanFd :=
  fun _ => both_tested _ _ _ _

theorem linFrame_checks : Checks (fun frame : LinFrame => frame.validateFrame.mapError invalidFrameErr) ValidLin := by
  apply checks_of
  · intro frame short
    have tested : frame.validateFrame = .ok () := if_neg (Nat.not_lt.mpr short)
    rw [tested]
    rfl
  · intro frame long
    have tested : frame.validateFrame = .error .invalidArgument := if_pos (Nat.lt_of_not_le long)
    rw [tested]
    rfl

theorem message_checks :
    Checks (fun message => (validateMessage message).mapError invalidMessageErr) ValidSomeIp := by
  apply checks_of
  · intro message valid
    rw [validateMessage, if_neg (Nat.not_lt.mpr valid.1), if_neg (fun both => valid.2 both.1 both.2)]
    rfl
  · intro message invalid
    unfold validateMessage
    split
    · rfl
    next short =>
      rw [if_pos]
      · rfl
      · by_cases request : message.header.messageType = .request
        · refine ⟨request, ?_⟩
          by_cases known : message.header.messageId.service = 0
          · exact known
          · exact absurd ⟨Nat.le_of_not_lt short, fun _ => known⟩ invalid
        · exact absurd ⟨Nat.le_of_not_lt short, fun same => absurd same request⟩ invalid

variable {validate : φ → Except BusError Unit} {valid : φ → Prop} [DecidablePred valid]

theorem step_refused (checks : Checks validate valid) (transceiver : Transceiver σ φ) (state : σ) {frame : φ}
    (invalid : ¬ valid frame) :
    (checkedBus validate transceiver).machine.step state (.transmit frame) =
      some (.transmitted (.error .invalidFrame), state) := by
  simp only [VehicleBus.machine, checkedBus, checks frame, if_neg invalid]
  rfl

theorem step_admitted (checks : Checks validate valid) (transceiver : Transceiver σ φ) (state : σ) {call : BusCall φ}
    (admitted : ∀ frame, call = .transmit frame → valid frame) :
    (checkedBus validate transceiver).machine.step state call = transceiver.machine.step state call := by
  cases call with
  | transmit frame =>
    simp only [VehicleBus.machine, Transceiver.machine, checkedBus, checks frame, if_pos (admitted frame rfl)]
  | receive => rfl
  | canReceive => rfl
  | canTransmit => rfl

theorem gate_admits {call passed : BusCall φ} (passes : (gate valid).pass () call = some passed) :
    passed = call ∧ ∀ frame, call = .transmit frame → valid frame := by
  cases call with
  | transmit frame =>
    simp only [gate] at passes
    split at passes
    next holds =>
      cases passes
      refine ⟨rfl, ?_⟩
      intro other same
      cases same
      exact holds
    next => cases passes
  | receive => cases passes; exact ⟨rfl, fun _ same => nomatch same⟩
  | canReceive => cases passes; exact ⟨rfl, fun _ same => nomatch same⟩
  | canTransmit => cases passes; exact ⟨rfl, fun _ same => nomatch same⟩

theorem gate_refuses {call : BusCall φ} (withheld : (gate valid).pass () call = none) :
    ∃ frame, call = .transmit frame ∧ ¬ valid frame := by
  cases call with
  | transmit frame =>
    simp only [gate] at withheld
    split at withheld
    next => cases withheld
    next fails => exact ⟨frame, rfl, fails⟩
  | receive => cases withheld
  | canReceive => cases withheld
  | canTransmit => cases withheld

theorem wraps (checks : Checks validate valid) (transceiver : Transceiver σ φ) :
    (gate valid).Wraps (checkedBus validate transceiver).machine transceiver.machine (fun _ => ()) id where
  withholds state call withheld := by
    obtain ⟨frame, rfl, invalid⟩ := gate_refuses withheld
    exact ⟨state, step_refused checks transceiver state invalid, rfl, rfl⟩
  passes state call passed passes reply after done := by
    obtain ⟨rfl, admitted⟩ := gate_admits passes
    exact ⟨after, (step_admitted checks transceiver state admitted).trans done, rfl, rfl⟩
  stops state call passed passes panicked := by
    obtain ⟨rfl, admitted⟩ := gate_admits passes
    exact (step_admitted checks transceiver state admitted).trans panicked

theorem passed_valid (calls : List (BusCall φ)) (frame : φ)
    (sent : BusCall.transmit frame ∈ (gate valid).passed () calls) : valid frame := by
  induction calls with
  | nil => cases sent
  | cons call rest ih =>
    cases decided : (gate valid).pass () call with
    | none =>
      rw [Wrapper.passed_withheld rest decided] at sent
      exact ih sent
    | some passed =>
      rw [Wrapper.passed_cons rest decided] at sent
      obtain ⟨rfl, admitted⟩ := gate_admits decided
      rcases List.mem_cons.mp sent with first | later
      · exact admitted frame first.symm
      · exact ih later

/-- A bus as a gate in front of its transceiver. Its replies and its final state are
those of the transceiver over the calls let through, and no invalid frame is among those. -/
structure Gates (valid : φ → Prop) [DecidablePred valid] (bus : VehicleBus σ φ) (transceiver : Transceiver σ φ) :
    Prop where
  run : ∀ state calls, bus.machine.run state calls =
    (transceiver.machine.run state ((gate valid).passed () calls)).map fun result =>
      ((gate valid).answers () calls result.1, result.2)
  sent : ∀ calls frame, BusCall.transmit frame ∈ (gate valid).passed () calls → valid frame

theorem checkedBus_gates (checks : Checks validate valid) (transceiver : Transceiver σ φ) :
    Gates valid (checkedBus validate transceiver) transceiver := by
  refine ⟨?_, passed_valid⟩
  intro state calls
  have both := congrArg (Option.map (fun result => (result.1, result.2.2))) ((wraps checks transceiver).run state calls)
  rw [Option.map_map, Option.map_map] at both
  exact Option.map_id'.symm.trans both

/-- All four buses, over whatever transceiver and whatever calls are made: the
transceiver gets every call but the transmissions of invalid frames, and no others.
The replies are its own, and `InvalidFrame` for those. -/
theorem buses_gate :
    (∀ transceiver : Transceiver σ CanFrame, Gates ValidCan (canBus transceiver) transceiver) ∧
    (∀ transceiver : Transceiver σ CanFdFrame, Gates ValidCanFd (canFdBus transceiver) transceiver) ∧
    (∀ transceiver : LinTransceiver σ, Gates ValidLin (linBus transceiver).toVehicleBus transceiver.toTransceiver) ∧
    (∀ transceiver : Transceiver σ SomeIpMessage, Gates ValidSomeIp (someIpBus transceiver) transceiver) :=
  ⟨checkedBus_gates canFrame_checks, checkedBus_gates canFdFrame_checks,
    fun transceiver => checkedBus_gates linFrame_checks transceiver.toTransceiver, checkedBus_gates message_checks⟩

end TptChassis.Proofs.BusGate

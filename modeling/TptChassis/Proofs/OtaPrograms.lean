import TptChassis.Proofs.OtaJournal

/-! The storage calls an engine method makes, as a program that can be read off.
Whatever the storage is, as long as it answers in keeping with what it is asked,
a method asks it for no slot and no journal that it could not keep. -/

namespace TptChassis.Proofs.OtaPrograms
open Ota OtaEffects OtaJournal Slices

variable {len capacity : Nat}

/-- The journal states that name slots 0 and 1 only. -/
def Recordable : SlotState → Prop
  | .activeSlot0 => True
  | .activeSlot1 => True
  | .pending candidate => candidate.toNat < 2
  | .testing active fallback => active.toNat < 2 ∧ fallback.toNat < 2

private theorem le_one {slot : UInt8} (small : slot ≤ 1) : slot.toNat < 2 :=
  Nat.lt_succ_of_le (UInt8.le_iff_toNat_le.mp small)

theorem encode_decode {state : SlotState} (recordable : Recordable state) :
    ∃ kind value, state.encode = some (kind, value) ∧ SlotState.decode kind value = some state := by
  cases state with
  | activeSlot0 => exact ⟨_, _, rfl, rfl⟩
  | activeSlot1 => exact ⟨_, _, rfl, rfl⟩
  | pending candidate =>
    rcases slot_cases recordable with rfl | rfl
    · exact ⟨_, _, rfl, rfl⟩
    · exact ⟨_, _, rfl, rfl⟩
  | testing active fallback =>
    rcases slot_cases recordable.1 with rfl | rfl
    · rcases slot_cases recordable.2 with rfl | rfl
      · exact ⟨_, _, rfl, rfl⟩
      · exact ⟨_, _, rfl, rfl⟩
    · rcases slot_cases recordable.2 with rfl | rfl
      · exact ⟨_, _, rfl, rfl⟩
      · exact ⟨_, _, rfl, rfl⟩

theorem decode_recordable {kind value : UInt8} {state : SlotState} (decoded : SlotState.decode kind value = some state) :
    Recordable state := by
  unfold SlotState.decode at decoded
  split at decoded
  · split at decoded
    · cases decoded
      trivial
    · split at decoded
      · cases decoded
        trivial
      · cases decoded
  · split at decoded
    · split at decoded
      next small =>
        cases decoded
        exact le_one small
      next => cases decoded
    · split at decoded
      · dsimp only at decoded
        split at decoded
        next small =>
          cases decoded
          exact ⟨le_one small.1, le_one small.2⟩
        next => cases decoded
      · cases decoded

/-- A pending candidate beyond slot 1 is written, but cannot be read back. -/
theorem decode_pending {slot : UInt8} (beyond : ¬ slot.toNat < 2) :
    SlotState.encode (.pending slot) = some (0x01, slot) ∧ SlotState.decode 0x01 slot = none := by
  refine ⟨rfl, ?_⟩
  have large : ¬ slot ≤ 1 := fun small => beyond (le_one small)
  exact if_neg large

theorem recordable_settled (slot : UInt8) : Recordable (.settled slot) := by
  unfold SlotState.settled
  split
  · trivial
  · trivial

theorem promotion_recordable {candidate : UInt8} (named : candidate.toNat < 2) :
    ∃ slot next, promotion candidate = .ok (slot, next) ∧ Recordable next := by
  rcases slot_cases named with rfl | rfl
  · exact ⟨0, .testing 0 1, rfl, by decide, by decide⟩
  · exact ⟨1, .testing 1 0, rfl, by decide, by decide⟩

/-- From such a journal the methods that move it go to another one, or fail
without a panic. -/
theorem moves_recordable {call : EngineCall len} {decided} {state : SlotState} (moves : transition call = some decided)
    (recordable : Recordable state) :
    (∃ error, decided state = .error (.error error)) ∨ ∃ slot next, decided state = .ok (slot, next) ∧ Recordable next := by
  cases call with
  | state => cases moves
  | stage => cases moves
  | recover =>
    cases moves
    cases state with
    | activeSlot0 => exact .inr ⟨_, _, rfl, trivial⟩
    | activeSlot1 => exact .inr ⟨_, _, rfl, trivial⟩
    | pending => exact .inr (promotion_recordable recordable)
    | testing => exact .inr ⟨_, _, rfl, recordable_settled _⟩
  | promote =>
    cases moves
    cases state with
    | pending => exact .inr (promotion_recordable recordable)
    | _ => exact .inl ⟨_, rfl⟩
  | commit =>
    cases moves
    cases state with
    | testing => exact .inr ⟨_, _, rfl, recordable_settled _⟩
    | _ => exact .inl ⟨_, rfl⟩
  | rollback =>
    cases moves
    cases state with
    | testing => exact .inr ⟨_, _, rfl, recordable_settled _⟩
    | _ => exact .inl ⟨_, rfl⟩

/-- What `stage` does once the slot is written. -/
def staged (package : UpdatePackage) :
    Except OtaError Unit → Program StorageCall StorageCall.Reply (Except Failure EngineReply)
  | .error _ => .pure (.error (.error .writeFailed))
  | .ok () => .request (.writeState (.pending package.slot)) fun
    | .error _ => .pure (.error (.error .storage))
    | .ok () => .pure (.ok .done)

/-- `stage` as the checks and storage calls it makes. -/
def staging (signer : SignatureScheme len) (package : UpdatePackage) (payload : List UInt8) (signature : Buffer UInt8 len) :
    Program StorageCall StorageCall.Reply (Except Failure EngineReply) :=
  if payload.length ≠ package.payloadLen.toNat then .pure (.error (.error .badPackage))
  else .request .slotCapacity fun (capacity : Nat) =>
    if payload.length > capacity ∨ payload.length > otaMaxPayload then .pure (.error (.error .payloadTooLarge))
    else if ¬ signer.verify (header package ++ payload) signature then .pure (.error (.error .badSignature))
    else .request (.writeSlot package.slot 0 payload) (staged package)

theorem program_staging (signer : SignatureScheme len) (package : UpdatePackage) (payload : List UInt8)
    (signature : Buffer UInt8 len) :
    (EngineCall.stage package payload signature).program signer = staging signer package payload signature := by
  simp only [EngineCall.program, Engine.stage, staging]
  split
  · rfl
  · apply congrArg (Program.request StorageCall.slotCapacity)
    funext reply
    simp only [Program.bind, ExceptT.bindCont]
    split
    · rfl
    next room =>
      have fits : payload.length ≤ otaMaxPayload := by omega
      rw [signedBytes_eq package fits]
      change Program.bind (ite _ _ _) _ = _
      split
      · rfl
      · apply congrArg (Program.request (StorageCall.writeSlot package.slot 0 payload))
        funext reply
        cases reply with
        | error => rfl
        | ok =>
          apply congrArg (Program.request (StorageCall.writeState (.pending package.slot)))
          funext reply
          cases reply with
          | error => rfl
          | ok => rfl

theorem returned_sound {α : Type} {result : Except Failure α} (sound : result ≠ .error .panic) :
    ∃ output, returned result = some output := by
  cases result with
  | ok value => exact ⟨_, rfl⟩
  | error failure =>
    cases failure with
    | error error => exact ⟨_, rfl⟩
    | panic => exact absurd rfl sound

theorem served_step {σ : Type} {storage : Backend σ StorageCall StorageCall.Reply} {signer : SignatureScheme len}
    {call : EngineCall len} {state after : σ} {result output}
    (ran : storage.run (call.program signer) state = some (result, after)) (returns : returned result = some output) :
    (servedEngine signer storage).step state call = some (output, after) := by
  simp only [servedEngine, ran, returns, Option.map_some]

theorem program_accepted {signer : SignatureScheme len} {package : UpdatePackage} {payload : List UInt8}
    {signature : Buffer UInt8 len} (accepts : Accepts signer capacity package payload signature) :
    ∃ next : Nat → Program StorageCall StorageCall.Reply (Except Failure EngineReply),
      (EngineCall.stage package payload signature).program signer = .request .slotCapacity next ∧
        next capacity = .request (.writeSlot package.slot 0 payload) (staged package) := by
  have room : ¬ (payload.length > capacity ∨ payload.length > otaMaxPayload) := by
    have fits := accepts.room
    omega
  rw [program_staging, staging, if_neg (Classical.not_not.mpr accepts.length)]
  exact ⟨_, rfl, (if_neg room).trans (if_neg (Classical.not_not.mpr accepts.verified))⟩

theorem run_accepted {σ : Type} {storage : Backend σ StorageCall StorageCall.Reply} {signer : SignatureScheme len}
    {package : UpdatePackage} {payload : List UInt8} {signature : Buffer UInt8 len} {state : σ}
    (accepts : Accepts signer capacity package payload signature)
    (asked : storage.perform .slotCapacity state = some (capacity, state)) :
    storage.run ((EngineCall.stage package payload signature).program signer) state =
      storage.run (.request (.writeSlot package.slot 0 payload) (staged package)) state := by
  obtain ⟨next, checks, writes⟩ := program_accepted accepts
  rw [checks, ← writes]
  exact Backend.run_reply asked

/-- Programs that call a storage of the given capacity in good order: slots 0 and
1 are written from their first byte on and with bytes that fit, the journal is
written last and names these slots only, and nothing panics. The storage may
fail any call, but it never reads a journal that names other slots. -/
inductive Disciplined (capacity : Nat) :
    Program StorageCall StorageCall.Reply (Except Failure EngineReply) → Prop where
  | pure {result} (sound : result ≠ .error .panic) : Disciplined capacity (.pure result)
  | slotCapacity {next : StorageCall.slotCapacity.Reply → _} (rest : Disciplined capacity (next capacity)) :
      Disciplined capacity (.request .slotCapacity next)
  | readState {next : StorageCall.readState.Reply → _}
      (failed : ∀ error, Disciplined capacity (next (Except.error error)))
      (read : ∀ state, Recordable state → Disciplined capacity (next (Except.ok state))) :
      Disciplined capacity (.request .readState next)
  | writeSlot {slot data} {next : (StorageCall.writeSlot slot 0 data).Reply → _} (named : slot.toNat < 2)
      (fits : data.length ≤ capacity ∧ data.length ≤ otaMaxPayload) (rest : ∀ reply, Disciplined capacity (next reply)) :
      Disciplined capacity (.request (.writeSlot slot 0 data) next)
  | writeState {state} {next : (StorageCall.writeState state).Reply → _} (recordable : Recordable state)
      (last : ∀ reply, ∃ result, next reply = .pure result ∧ result ≠ .error .panic) :
      Disciplined capacity (.request (.writeState state) next)

private theorem journaled_disciplined {failing} {decided : SlotState → Except Failure (UInt8 × SlotState)}
    (sound : ∀ state, Recordable state →
      (∃ error, decided state = .error (.error error)) ∨ ∃ slot next, decided state = .ok (slot, next) ∧ Recordable next) :
    Disciplined capacity (journaled failing decided) := by
  apply Disciplined.readState
  · intro error
    exact .pure nofun
  · intro state recordable
    rcases sound state recordable with ⟨error, decision⟩ | ⟨slot, next, decision, kept⟩
    · simp only [decision]
      exact .pure nofun
    · simp only [decision]
      apply Disciplined.writeState kept
      intro reply
      cases reply with
      | error error => exact ⟨_, rfl, nofun⟩
      | ok => exact ⟨_, rfl, nofun⟩

private theorem staging_disciplined {signer : SignatureScheme len} {package : UpdatePackage} {payload : List UInt8}
    {signature : Buffer UInt8 len} (named : Accepts signer capacity package payload signature → package.slot.toNat < 2) :
    Disciplined capacity (staging signer package payload signature) := by
  unfold staging
  split
  next => exact .pure nofun
  next length =>
    apply Disciplined.slotCapacity
    split
    next => exact .pure nofun
    next room =>
      split
      next => exact .pure nofun
      next verified =>
        have fits : payload.length ≤ capacity ∧ payload.length ≤ otaMaxPayload := by omega
        have target := named ⟨Classical.not_not.mp length, fits, Classical.not_not.mp verified⟩
        apply Disciplined.writeSlot target fits
        intro reply
        cases reply with
        | error => exact .pure nofun
        | ok =>
          apply Disciplined.writeState (show Recordable (.pending package.slot) from target)
          intro reply
          cases reply with
          | error => exact ⟨_, rfl, nofun⟩
          | ok => exact ⟨_, rfl, nofun⟩

/-- Every method is disciplined, unless it stages an accepted package for another slot. -/
theorem program_disciplined {signer : SignatureScheme len} {call : EngineCall len}
    (named : ∀ package payload signature, call = .stage package payload signature →
      Accepts signer capacity package payload signature → package.slot.toNat < 2) :
    Disciplined capacity (call.program signer) := by
  cases moves : transition call with
  | some decided =>
    obtain ⟨failing, journaled⟩ := program_journaled signer moves
    rw [journaled]
    exact journaled_disciplined fun state => moves_recordable moves
  | none =>
    cases call with
    | state =>
      apply Disciplined.readState
      · intro error
        exact .pure nofun
      · intro state _
        exact .pure nofun
    | stage package payload signature =>
      rw [program_staging]
      exact staging_disciplined (named package payload signature rfl)
    | _ => cases moves

end TptChassis.Proofs.OtaPrograms

import TptChassis.Proofs.OtaPrograms

/-! What an engine call leaves behind when it returns an error, over every storage
of which any call may fail. -/

namespace TptChassis.Proofs.OtaErrors
open Ota OtaEffects OtaPrograms Slices

variable {σ Fault : Type} {len capacity : Nat}

/-- A storage seen through its journal and its slots. What its calls reply is up
to it. Asking it changes nothing, writing the journal touches no slot and fails
without a change, and writing a slot touches that slot only. -/
structure FailsSafely (device : Device σ StorageCall StorageCall.Reply Fault) (journal : σ → SlotState)
    (image : σ → UInt8 → List UInt8) : Prop where
  asks : ∀ {fault state reply after}, device.perform fault state .slotCapacity = (some reply, after) →
    journal after = journal state ∧ image after = image state
  reads : ∀ {fault state reply after}, device.perform fault state .readState = (some reply, after) →
    journal after = journal state ∧ image after = image state
  records : ∀ {fault state next reply after}, device.perform fault state (.writeState next) = (some reply, after) →
    image after = image state ∧ ∀ error, reply = Except.error error → journal after = journal state
  writes : ∀ {fault state slot offset data reply after},
    device.perform fault state (.writeSlot slot offset data) = (some reply, after) →
    journal after = journal state ∧ ∀ other, other ≠ slot → image after other = image state other

variable {device : Device σ StorageCall StorageCall.Reply Fault} {journal : σ → SlotState}
  {image : σ → UInt8 → List UInt8} {plan : List Fault} {state after : σ} {error : OtaError}

def Unchanged (journal : σ → SlotState) (image : σ → UInt8 → List UInt8) (state after : σ) : Prop :=
  journal after = journal state ∧ image after = image state

theorem journaled_atomic (safe : FailsSafely device journal image) {failing decided}
    (failed : device.run (journaled failing decided) plan state = (some (.error (.error error)), after)) :
    Unchanged journal image state after := by
  rcases Device.run_request failed with ⟨lost, _⟩ | ⟨reply, middle, performed, failed⟩
  · cases lost
  have same := safe.reads performed
  cases reply with
  | error =>
    cases failed
    exact same
  | ok read =>
    dsimp only at failed
    split at failed
    next =>
      cases failed
      exact same
    next =>
      rcases Device.run_request failed with ⟨lost, _⟩ | ⟨reply, last, performed, failed⟩
      · cases lost
      obtain ⟨slots, kept⟩ := safe.records performed
      cases reply with
      | error =>
        cases failed
        exact ⟨(kept _ rfl).trans same.1, slots.trans same.2⟩
      | ok => cases failed

/-- The errors of the checks that `stage` makes before it writes. -/
def Rejects (error : OtaError) : Prop := error = .badPackage ∨ error = .payloadTooLarge ∨ error = .badSignature

private theorem written_unrejected : ¬ Rejects .writeFailed ∧ ¬ Rejects .storage := by
  unfold Rejects
  simp

theorem staged_atomic (safe : FailsSafely device journal image) {package : UpdatePackage} {payload : List UInt8}
    (failed : device.run (.request (.writeSlot package.slot 0 payload) (staged package)) plan state =
      (some (.error (.error error)), after)) :
    ¬ Rejects error ∧ journal after = journal state ∧
      ∀ other, other ≠ package.slot → image after other = image state other := by
  rcases Device.run_request failed with ⟨lost, _⟩ | ⟨reply, middle, performed, failed⟩
  · cases lost
  obtain ⟨same, others⟩ := safe.writes performed
  cases reply with
  | error =>
    cases failed
    exact ⟨written_unrejected.1, same, others⟩
  | ok =>
    rcases Device.run_request failed with ⟨lost, _⟩ | ⟨reply, last, performed, failed⟩
    · cases lost
    obtain ⟨slots, kept⟩ := safe.records performed
    cases reply with
    | error =>
      cases failed
      refine ⟨written_unrejected.2, (kept _ rfl).trans same, ?_⟩
      intro other different
      rw [slots]
      exact others other different
    | ok => cases failed

theorem staging_atomic (safe : FailsSafely device journal image) {signer : SignatureScheme len} {package : UpdatePackage}
    {payload : List UInt8} {signature : Buffer UInt8 len}
    (failed : device.run (staging signer package payload signature) plan state = (some (.error (.error error)), after)) :
    journal after = journal state ∧ (Rejects error → image after = image state) ∧
      ∀ other, other ≠ package.slot → image after other = image state other := by
  have unchanged (same : Unchanged journal image state after) : journal after = journal state ∧
      (Rejects error → image after = image state) ∧
        ∀ other, other ≠ package.slot → image after other = image state other :=
    ⟨same.1, fun _ => same.2, fun other _ => congrFun same.2 other⟩
  unfold staging at failed
  split at failed
  next =>
    cases failed
    exact unchanged ⟨rfl, rfl⟩
  next =>
    rcases Device.run_request failed with ⟨lost, _⟩ | ⟨reply, middle, performed, failed⟩
    · cases lost
    have same := safe.asks performed
    split at failed
    next =>
      cases failed
      exact unchanged same
    next =>
      split at failed
      next =>
        cases failed
        exact unchanged same
      next =>
        obtain ⟨wrote, kept, others⟩ := staged_atomic safe failed
        refine ⟨kept.trans same.1, fun rejected => absurd rejected wrote, ?_⟩
        intro other different
        exact (others other different).trans (congrFun same.2 other)

/-- A call that returns an error leaves the journal as it was. If it is a stage
call it has at most written to the slot of its package, and not even there when
the package was rejected. -/
theorem errors_atomic (safe : FailsSafely device journal image) (signer : SignatureScheme len) {call : EngineCall len}
    (failed : device.run (call.program signer) plan state = (some (.error (.error error)), after)) :
    journal after = journal state ∧
      ∀ package payload signature, call = .stage package payload signature →
        (error = .badPackage ∨ error = .payloadTooLarge ∨ error = .badSignature →
          ∀ slot, image after slot = image state slot) ∧
        ∀ slot, slot ≠ package.slot → image after slot = image state slot := by
  cases moves : transition call with
  | some decided =>
    obtain ⟨failing, program⟩ := program_journaled signer moves
    rw [program] at failed
    refine ⟨(journaled_atomic safe failed).1, ?_⟩
    intro package payload signature stages
    rw [stages] at moves
    cases moves
  | none =>
    cases call with
    | state =>
      refine ⟨?_, nofun⟩
      rcases Device.run_request failed with ⟨lost, _⟩ | ⟨reply, middle, performed, failed⟩
      · cases lost
      · cases reply with
        | error =>
          cases failed
          exact (safe.reads performed).1
        | ok => cases failed
    | stage package payload signature =>
      rw [program_staging] at failed
      obtain ⟨kept, rejected, others⟩ := staging_atomic safe failed
      refine ⟨kept, ?_⟩
      intro _ _ _ stages
      cases stages
      exact ⟨fun rejects slot => congrFun (rejected rejects) slot, others⟩
    | _ => cases moves

/-- The storage of the tests, with any faults. -/
theorem memStorage_failsSafely (capacity : Nat) :
    FailsSafely (MemStorage.device capacity) MemStorage.state MemStorage.image where
  asks performed := by
    simp only [MemStorage.device, MemStorage.perform] at performed
    split at performed <;> cases performed
    exact ⟨rfl, rfl⟩
  reads performed := by
    cases (congrArg Prod.snd performed : _ = _)
    exact ⟨rfl, rfl⟩
  records performed := by
    simp only [MemStorage.device, MemStorage.perform] at performed
    split at performed
    next =>
      cases performed
      refine ⟨rfl, ?_⟩
      intro error failed
      cases failed
    next =>
      cases performed
      exact ⟨rfl, fun _ _ => rfl⟩
    next => cases performed
    next => cases performed
  writes performed := by
    simp only [MemStorage.device, MemStorage.perform] at performed
    split at performed
    next =>
      cases (congrArg Prod.snd performed : _ = _)
      exact ⟨rfl, fun _ _ => rfl⟩
    next written stored =>
      cases (congrArg Prod.snd performed : _ = _)
      have effect := writeSlot_effect stored
      exact ⟨effect.state, effect.others⟩

private theorem run_staging {signer : SignatureScheme len} {package : UpdatePackage} {payload : List UInt8}
    {signature : Buffer UInt8 len} (accepts : Accepts signer capacity package payload signature)
    (asked : device.perform (plan.headD device.quiet) state .slotCapacity = (some capacity, state)) :
    device.run ((EngineCall.stage package payload signature).program signer) plan state =
      device.run (.request (.writeSlot package.slot 0 payload) (staged package)) plan.tail state := by
  obtain ⟨next, checks, writes⟩ := program_accepted accepts
  rw [checks, ← writes]
  exact Device.run_reply plan asked

theorem errors_atomic_torn :
    ∃ after : MemStorage 16,
      (MemStorage.device 16).run ((stageSigned ⟨0xCAFE⟩ 32 ⟨1, 3⟩ [1, 2, 3]).program ((DemoSigner.mk 0xCAFE).scheme 32))
          [.none, .fail 2] (.new 16) = (some (.error (.error .writeFailed)), after) ∧
        after.image 1 = [1, 2, 0, 0, 0, 0, 0, 0, 0, 0, 0, 0, 0, 0, 0, 0] ∧
        after.state = .activeSlot0 ∧ after.image 0 = (MemStorage.new 16).image 0 := by
  have accepts : Accepts ((DemoSigner.mk 0xCAFE).scheme 32) 16 ⟨1, 3⟩ [1, 2, 3] _ :=
    accepts_signed ⟨0xCAFE⟩ (show [1, 2, 3].length = 3 from rfl) (by decide)
  have begun := @run_staging _ _ _ _ (MemStorage.device 16) [.none, .fail 2] (.new 16) _ _ _ _ accepts rfl
  have failed := begun.trans (show (MemStorage.device 16).run (.request (.writeSlot 1 0 [1, 2, 3]) (staged ⟨1, 3⟩)) [.fail 2]
    (.new 16) = (some (.error (.error .writeFailed)), _) from rfl)
  obtain ⟨kept, slots⟩ := errors_atomic (memStorage_failsSafely 16) _ failed
  exact ⟨_, failed, rfl, kept, (slots _ _ _ rfl).2 0 (by decide)⟩

end TptChassis.Proofs.OtaErrors

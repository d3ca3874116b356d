import TptChassis.Proofs.AglFiles

/-! The journal of the AGL storage while no file operation meets a fault. `decode`
reads back every journal that `encode` writes, except for a candidate that is
neither slot; `stage` does not check the slot of a package. -/

namespace TptChassis.Proofs.AglJournal
open Ota OtaEffects OtaPrograms AglFiles Slices Words

variable {len capacity : Nat} {signer : SignatureScheme len} {target : Target}

/-- Notes the last state passed to `write_state`. -/
def lastWritten : StorageCall → SlotState → SlotState
  | .writeState state, _ => state
  | _, last => last

def recorded (target : Target) (capacity : Nat) : Backend (Directory × SlotState) StorageCall StorageCall.Reply :=
  (AglOtaStorage.backend target capacity).recording lastWritten

def Current (storage : Directory × SlotState) : Prop := ReadsBack storage.1 storage.2

/-- A slot that can be written: its file is missing or long enough. -/
def Writable (capacity : Nat) (directory : Directory) (slot : UInt8) : Prop :=
  ∀ contents, directory (.slot slot) = some contents → capacity ≤ contents.length

theorem Writable.imageOf {directory : Directory} {slot : UInt8} (writable : Writable capacity directory slot) :
    ∃ buf, imageOf capacity (directory (.slot slot)) = some buf := by
  cases held : directory (.slot slot) with
  | none => exact ⟨_, rfl⟩
  | some contents => exact ⟨_, dif_pos (writable contents held)⟩

theorem Writable.patched {directory : Directory} {slot : UInt8} (writable : Writable capacity directory slot)
    (data : List UInt8) : ∃ image, patched capacity data (directory (.slot slot)) = some image := by
  obtain ⟨buf, held⟩ := writable.imageOf
  rw [patched_imageOf, held]
  exact ⟨_, rfl⟩

theorem torn_of_not_writable {directory : Directory} {slot : UInt8} (unwritable : ¬ Writable capacity directory slot) :
    ∃ contents, directory (.slot slot) = some contents ∧ contents.length < capacity := by
  by_contra whole
  apply unwritable
  intro contents held
  exact Nat.not_lt.mp fun torn => whole ⟨contents, held, torn⟩

/-- The call stages a package that `stage` writes for neither slot 0 nor slot 1. -/
def Misplaces (signer : SignatureScheme len) (capacity : Nat) (directory : Directory) (call : EngineCall len) : Prop :=
  ∃ package payload signature, call = .stage package payload signature ∧
    Accepts signer capacity package payload signature ∧ ¬ package.slot.toNat < 2 ∧ Writable capacity directory package.slot

/-- The files of other slots are as they were at the start. -/
def Untouched (start directory : Directory) : Prop :=
  ∀ slot : UInt8, ¬ slot.toNat < 2 → directory (.slot slot) = start (.slot slot)

private theorem recorded_performs {call : StorageCall} {directory after : Directory} {reply : call.Reply}
    (last : SlotState) (performed : (AglOtaStorage.backend target capacity).perform call directory = some (reply, after)) :
    (recorded target capacity).perform call (directory, last) = some (reply, after, lastWritten call last) :=
  Backend.recording_perform last performed

/-- A disciplined program never panics over the storage, and leaves the journal
readable. -/
theorem disciplined_runs {program : Program StorageCall StorageCall.Reply (Except Failure EngineReply)}
    (disciplined : Disciplined capacity program) {start directory : Directory} {last : SlotState}
    (current : Current (directory, last)) (untouched : Untouched start directory) :
    ∃ result after, (recorded target capacity).run program (directory, last) = some (result, after) ∧
      result ≠ .error .panic ∧ Current after ∧ Untouched start after.1 := by
  induction disciplined generalizing directory last with
  | pure sound => exact ⟨_, _, rfl, sound, current, untouched⟩
  | slotCapacity _ ih =>
    rw [Backend.run_reply (recorded_performs last (slotCapacity_performs target capacity directory))]
    exact ih current untouched
  | readState _ _ _ ih =>
    have held := readsBack_iff.mp current
    have read := readState_performs target capacity directory
    rw [held] at read
    rw [Backend.run_reply (recorded_performs last read)]
    exact ih _ (journal_recordable held) current untouched
  | @writeSlot slot data next named fits _ ih =>
    obtain ⟨reply, after, written, others⟩ := writeSlot_answers target fits.1 fits.2 slot directory
    rw [Backend.run_reply (recorded_performs last written)]
    apply ih reply
    · apply readsBack_iff.mpr
      exact (congrArg journal (others .state (slot_ne_state slot).symm)).trans (readsBack_iff.mp current)
    · intro other beyond
      have different : AglPath.slot other ≠ .slot slot := by
        intro same
        cases same
        exact beyond named
      exact (others _ different).trans (untouched other beyond)
  | writeState recordable ends =>
    obtain ⟨kind, value, encoded, decoded⟩ := encode_decode recordable
    obtain ⟨result, finishes, sound⟩ := ends (.ok ())
    have written := writeState_performs target capacity encoded directory
    rw [Backend.run_reply (recorded_performs last written), finishes]
    refine ⟨result, _, rfl, sound, ?_, ?_⟩
    · exact readsBack_iff.mpr (put_journal decoded directory)
    · intro other beyond
      exact (put_other directory [kind, value] (slot_ne_state other)).trans (untouched other beyond)

private theorem accepted_step {package : UpdatePackage} {payload : List UInt8} {signature : Buffer UInt8 len}
    {directory : Directory} {last : SlotState} {after result output}
    (accepts : Accepts signer capacity package payload signature)
    (ran : (recorded target capacity).run (.request (.writeSlot package.slot 0 payload) (staged package)) (directory, last) =
      some (result, after))
    (returns : returned result = some output) :
    (servedEngine signer (recorded target capacity)).step (directory, last) (.stage package payload signature) =
      some (output, after) := by
  apply served_step _ returns
  rw [run_accepted accepts (recorded_performs last (slotCapacity_performs target capacity directory)), ran]

theorem misplaced_unreadable {start directory : Directory} {call : EngineCall len}
    (misplaces : Misplaces signer capacity start call) (untouched : Untouched start directory) (last : SlotState) :
    ∃ after, (servedEngine signer (recorded target capacity)).step (directory, last) call = some (.ok .done, after) ∧
      journal (after.1 .state) = .error .storage := by
  obtain ⟨package, payload, signature, rfl, accepts, beyond, writable⟩ := misplaces
  obtain ⟨encoded, unread⟩ := decode_pending beyond
  obtain ⟨image, done⟩ := writable.patched payload
  rw [← untouched package.slot beyond] at done
  have written := recorded_performs last (writeSlot_performs target accepts.room.1 accepts.room.2 done)
  have noted := recorded_performs last
    (writeState_performs target capacity encoded (directory.put (.slot package.slot) image))
  have ran : (recorded target capacity).run (.request (.writeSlot package.slot 0 payload) (staged package)) (directory, last) =
      some (.ok .done, (directory.put (.slot package.slot) image).put .state [0x01, package.slot], .pending package.slot) :=
    (Backend.run_reply written).trans (Backend.run_reply noted)
  refine ⟨_, accepted_step accepts ran rfl, ?_⟩
  simp only [put_self, journal, unread]

theorem placed_current {start directory : Directory} {last : SlotState} {call : EngineCall len}
    (placed : ¬ Misplaces signer capacity start call) (current : Current (directory, last))
    (untouched : Untouched start directory) :
    ∃ output after, (servedEngine signer (recorded target capacity)).step (directory, last) call = some (output, after) ∧
      Current after ∧ Untouched start after.1 := by
  by_cases beyond : ∃ package payload signature, call = .stage package payload signature ∧
      Accepts signer capacity package payload signature ∧ ¬ package.slot.toNat < 2
  · obtain ⟨package, payload, signature, rfl, accepts, beyond⟩ := beyond
    -- The file of the slot is too short to be read, so the slot is not written.
    have unwritable : ¬ Writable capacity start package.slot := by
      intro writable
      exact placed ⟨package, payload, signature, rfl, accepts, beyond, writable⟩
    obtain ⟨contents, held, torn⟩ := torn_of_not_writable unwritable
    have refused := recorded_performs last
      (writeSlot_refuses target 0 payload ((untouched package.slot beyond).trans held) torn)
    have ran : (recorded target capacity).run (.request (.writeSlot package.slot 0 payload) (staged package)) (directory, last) =
        some (.error (.error .writeFailed), directory, last) := Backend.run_reply refused
    exact ⟨_, _, accepted_step accepts ran rfl, current, untouched⟩
  · have named : ∀ package payload signature, call = .stage package payload signature →
        Accepts signer capacity package payload signature → package.slot.toNat < 2 := by
      intro package payload signature staged accepts
      exact Classical.not_not.mp fun large => beyond ⟨package, payload, signature, staged, accepts, large⟩
    obtain ⟨result, after, ran, sound, kept⟩ := disciplined_runs (program_disciplined named) current untouched
    obtain ⟨output, returns⟩ := returned_sound sound
    exact ⟨output, after, served_step ran returns, kept⟩

/-- An engine over the storage, started on a journal that can be read, never
panics and always finds the journal as it was last written, exactly when no
package is staged that passes the checks of `stage` for another slot than 0 and 1. -/
theorem journal_reads_back_iff {start : Directory} {state : SlotState} (readable : ReadsBack start state)
    (calls : List (EngineCall len)) :
    (servedEngine signer (recorded target capacity)).Safe Current (start, state) calls ↔
      ∀ call ∈ calls, ¬ Misplaces signer capacity start call := by
  apply @Machine.safe_iff _ _ _ _ (fun storage => Current storage ∧ Untouched start storage.1)
  · exact fun storage holds => holds.1
  · intro call _ placed storage holds
    exact placed_current placed holds.1 holds.2
  · intro call _ misplaced storage holds output next called current
    obtain ⟨after, stepped, unread⟩ := misplaced_unreadable (Classical.not_not.mp misplaced) holds.2 storage.2
    cases called.symm.trans stepped
    cases unread.symm.trans (readsBack_iff.mp current)
  · exact ⟨readable, fun _ _ => rfl⟩

theorem update_reads_back :
    (servedEngine ((DemoSigner.mk 0xCAFE).scheme 32) (recorded linux64 16)).Safe Current (.empty, .activeSlot0)
      [.recover, stageSigned ⟨0xCAFE⟩ 32 ⟨1, 3⟩ [1, 2, 3], .promote, .rollback] := by
  apply (journal_reads_back_iff empty_readsBack _).mpr
  intro call member given
  obtain ⟨package, payload, signature, rfl, _, beyond, _⟩ := given
  simp only [List.mem_cons, stageSigned, reduceCtorEq, EngineCall.stage.injEq, List.not_mem_nil, or_false, false_or] at member
  rw [member.1] at beyond
  exact beyond (by decide)

/-- A signed package for slot 2 is staged, and leaves a journal that cannot be read. -/
theorem third_slot_unreadable :
    ¬ ∀ calls : List (EngineCall 32),
      (servedEngine ((DemoSigner.mk 0xCAFE).scheme 32) (recorded linux64 16)).Safe Current (.empty, .activeSlot0) calls := by
  intro claimed
  obtain ⟨_, _, _, stepped, safe⟩ := claimed [stageSigned ⟨0xCAFE⟩ 32 ⟨2, 3⟩ [1, 2, 3]]
  have misplaces : Misplaces ((DemoSigner.mk 0xCAFE).scheme 32) 16 .empty (stageSigned ⟨0xCAFE⟩ 32 ⟨2, 3⟩ [1, 2, 3]) :=
    ⟨_, _, _, rfl, accepts_signed _ rfl (by decide), by decide, nofun⟩
  obtain ⟨after, stage, unread⟩ := misplaced_unreadable misplaces (fun _ _ => rfl) .activeSlot0
  cases stepped.symm.trans stage
  cases unread.symm.trans (readsBack_iff.mp safe.holds)

end TptChassis.Proofs.AglJournal

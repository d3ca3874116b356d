import TptChassis.Proofs.OtaRunning

/-! Recovery several times in a row. From a pending candidate the first one starts
its test, and the next one takes the reboot for a failed test. -/

namespace TptChassis.Proofs.OtaIdempotence
open Ota OtaEffects OtaJournal OtaRunning Slices

variable {capacity len : Nat} {signer : SignatureScheme len}

/-- Recovering so many times leaves the journal and returns the slot that
recovering once does. -/
def RecoversAlike (signer : SignatureScheme len) (storage : MemStorage capacity) (count : Nat) : Prop :=
  ∃ slot once outputs last,
    (calmEngine signer capacity).step storage .recover = some (.ok (.slot slot), once) ∧
      (calmEngine signer capacity).run storage (List.replicate count .recover) = some (outputs, last) ∧
      outputs.getLast? = some (.ok (.slot slot)) ∧ last.state = once.state

private theorem recover_calm (signer : SignatureScheme len) {storage : MemStorage capacity} {slot : UInt8} {next : SlotState}
    (decision : recovered storage.state = .ok (slot, next)) :
    (calmEngine signer capacity).step storage .recover = some (.ok (.slot slot), { storage with state := next }) :=
  calm_moves signer transition_recover decision

theorem run_settled (signer : SignatureScheme len) {storage : MemStorage capacity} {slot : UInt8} (named : slot.toNat < 2)
    (settled : storage.state = .settled slot) (count : Nat) :
    (calmEngine signer capacity).run storage (List.replicate count .recover) =
      some (List.replicate count (.ok (.slot slot)), storage) := by
  have called : (calmEngine signer capacity).step storage .recover = some (.ok (.slot slot), storage) := by
    have moved := recover_calm signer (settled ▸ recovered_settled named)
    exact moved
  induction count with
  | zero => rfl
  | succ count ih =>
    rw [List.replicate_succ, Machine.run_cons _ called, ih]
    rfl

theorem run_settling {storage : MemStorage capacity} {slot : UInt8} (named : slot.toNat < 2)
    (settles : recovered storage.state = .ok (slot, .settled slot)) (count : Nat) :
    (calmEngine signer capacity).run storage (List.replicate (count + 1) .recover) =
      some (List.replicate (count + 1) (.ok (.slot slot)), { storage with state := .settled slot }) := by
  have rest := run_settled signer named (show ({ storage with state := .settled slot } : MemStorage capacity).state = _ from rfl)
  rw [List.replicate_succ, Machine.run_cons _ (recover_calm signer settles), rest count]
  rfl

private theorem settling_alike {storage : MemStorage capacity} {slot : UInt8} (named : slot.toNat < 2)
    (settles : recovered storage.state = .ok (slot, .settled slot)) (count : Nat) :
    RecoversAlike signer storage (count + 1) := by
  refine ⟨slot, _, _, _, recover_calm signer settles, run_settling named settles count, ?_, rfl⟩
  rw [List.getLast?_replicate, if_neg (Nat.succ_ne_zero count)]

private theorem pending_promotes {storage : MemStorage capacity} {slot : UInt8} (named : slot.toNat < 2)
    (pending : storage.state = .pending (1 - slot)) :
    recovered storage.state = .ok (1 - slot, .testing (1 - slot) slot) := by
  rw [pending]
  exact promotion_other named

/-- The second recovery ends the test that the first one has begun. -/
theorem pending_differs {storage : MemStorage capacity} {slot : UInt8} (named : slot.toNat < 2)
    (pending : storage.state = .pending (1 - slot)) (more : Nat) : ¬ RecoversAlike signer storage (more + 2) := by
  intro given
  obtain ⟨_, once, _, last, called, ran, _, same⟩ := given
  have promoted := recover_calm signer (pending_promotes named pending)
  cases promoted.symm.trans called
  have tested : recovered (SlotState.testing (1 - slot) slot) = .ok (slot, .settled slot) := recovered_testing named _
  rw [List.replicate_succ, Machine.run_cons _ promoted, run_settling named tested more] at ran
  cases ran
  exact settled_untested same

/-- In any state that a run has reached, repeated recovery is no different from
a single one exactly when no update is pending. -/
theorem recovers_alike_iff {start storage : MemStorage capacity} {past} (initial : start.state = .activeSlot0)
    (reached : (engine signer capacity).Reaches start past storage) {count : Nat} (positive : 0 < count) :
    RecoversAlike signer storage count ↔ count = 1 ∨ ∀ candidate, storage.state ≠ .pending candidate := by
  obtain ⟨slot, named, fallback⟩ := reaches_named initial reached
  obtain ⟨more, rfl⟩ := Nat.exists_eq_add_one.mpr positive
  generalize state : storage.state = journal at fallback
  cases fallback with
  | settled =>
    exact iff_of_true (settling_alike named (state ▸ recovered_settled named) more) (.inr fun _ => settled_not_pending)
  | testing =>
    exact iff_of_true (settling_alike named (state ▸ recovered_testing named _) more) (.inr nofun)
  | pending =>
    have promoted := recover_calm signer (pending_promotes named state)
    cases more with
    | zero => exact iff_of_true ⟨_, _, _, _, promoted, Machine.run_cons [] promoted, rfl, rfl⟩ (.inl rfl)
    | succ more =>
      apply iff_of_false (pending_differs named state more)
      intro given
      rcases given with single | other
      · omega
      · exact other _ rfl

private theorem slot0_named : (0 : UInt8).toNat < 2 := Nat.two_pos

private theorem staged_reaches :
    ∃ (storage : MemStorage 16) (past : List (Step (MemStorage 16) (EngineInput 32) (Option (Except OtaError EngineReply)))),
      (engine ((DemoSigner.mk 0xCAFE).scheme 32) 16).Reaches (.new 16) past storage ∧ storage.state = .pending 1 :=
  have staged := stageSigned_performs ⟨0xCAFE⟩ ⟨1, 3⟩ (show [1, 2, 3].length = 3 from rfl) (by decide) rfl
  ⟨_, _, .call .start staged, rfl⟩

theorem recovers_alike_testing :
    ∃ storage : MemStorage 16, storage.state = .testing 1 0 ∧ RecoversAlike ((DemoSigner.mk 0xCAFE).scheme 32) storage 3 := by
  obtain ⟨storage, past, staged, pending⟩ := staged_reaches
  have promoted := pending_promotes slot0_named pending
  have reached := staged.call (moves_perform _ storage transition_recover promoted)
  exact ⟨_, rfl, (recovers_alike_iff rfl reached (show 0 < 3 by omega)).mpr (.inr nofun)⟩

/-- After an update is staged the first recovery tests it and the second one goes back. -/
theorem recovers_otherwise :
    ¬ ∀ (capacity len : Nat) (signer : SignatureScheme len) (start storage : MemStorage capacity) past,
      start.state = .activeSlot0 → (engine signer capacity).Reaches start past storage →
      ∀ count, 0 < count → RecoversAlike signer storage count := by
  intro claimed
  obtain ⟨storage, past, staged, pending⟩ := staged_reaches
  exact pending_differs slot0_named pending 0 (claimed 16 32 _ _ storage past rfl staged 2 Nat.two_pos)

end TptChassis.Proofs.OtaIdempotence

import TptChassis.Proofs.OtaRecovery
import TptChassis.Proofs.PackagingTool

/-! The next update. Whatever power losses and failing calls have left behind, two
recoveries settle the journal, and the slot not in use takes a package of the tool. -/

namespace TptChassis.Proofs.OtaInstall
open Cli Ota OtaEffects OtaJournal OtaRunning OtaRollback OtaRecovery PackagingTool Slices

variable {capacity len : Nat}

theorem recovers_settled (signer : SignatureScheme len) (storage : MemStorage capacity) {slot : UInt8} {state : SlotState}
    (named : slot.toNat < 2) (resolved : Resolved slot state) :
    (calmEngine signer capacity).step { storage with state } .recover =
      some (.ok (.slot slot), { storage with state := .settled slot }) := by
  apply calm_moves signer transition_recover
  rcases resolved with settled | testing
  · rw [settled]
    exact recovered_settled named
  · rw [testing]
    exact recovered_testing named _

/-- The first recovery may promote what was pending; the second falls back. -/
theorem two_recoveries (signer : SignatureScheme len) {storage : MemStorage capacity} {image : Image}
    (guarded : Guards storage image) :
    ∃ first, (calmEngine signer capacity).run storage [.recover, .recover] =
      some ([.ok (.slot first), .ok (.slot image.slot)], { storage with state := .settled image.slot }) := by
  obtain ⟨first, next, decision⟩ := guarded.journal.recovers guarded.named
  have moves : transition (.recover : EngineCall len) = some recovered := transition_recover
  have resolved : Resolved image.slot next := by
    rcases guarded.journal.moves guarded.named moves decision with ⟨commit, _⟩ | ⟨_, settled | ⟨_, testing⟩⟩
    · cases commit
    · exact .inl settled
    · exact .inr testing
  refine ⟨first, ?_⟩
  rw [Machine.run_cons _ (calm_moves signer moves decision),
    Machine.run_cons _ (recovers_settled signer storage guarded.named resolved)]
  rfl

/-- A package for the slot not in use, staged and promoted on a settled journal. -/
theorem stage_promotes (signer : DemoSigner) (storage : MemStorage capacity) {slot : UInt8} (named : slot.toNat < 2)
    {package : UpdatePackage} {payload : List UInt8} (target : package.slot = 1 - slot)
    (length : payload.length = package.payloadLen.toNat) (room : payload.length ≤ capacity ∧ payload.length ≤ otaMaxPayload) :
    ∃ tested, (calmEngine (signer.scheme len) capacity).run storage [stageSigned signer len package payload, .promote] =
        some ([.ok .done, .ok (.slot (1 - slot))], tested) ∧
      tested.state = .testing (1 - slot) slot ∧ payload <+: tested.image (1 - slot) ∧ tested.image slot = storage.image slot := by
  obtain ⟨written, stored⟩ := writeSlot_accepts storage (target ▸ other_named named) room.1 payload.length
  have staged : (calmEngine (signer.scheme len) capacity).step storage (stageSigned signer len package payload) = _ :=
    calm_stages signer package length room stored
  have promotion : promoted (.pending package.slot) = .ok (1 - slot, .testing (1 - slot) slot) :=
    target ▸ promotion_other named
  refine ⟨{ written with state := .testing (1 - slot) slot }, ?_, rfl, ?_, ?_⟩
  · rw [Machine.run_cons _ staged, Machine.run_cons _ (calm_moves (signer.scheme len) transition_promote promotion)]
    rfl
  · exact target ▸ (stage_succeeds staged).2.1
  · refine (writeSlot_effect stored).others slot ?_
    rw [target]
    rcases slot_cases named with rfl | rfl
    · exact (by decide : (0 : UInt8) ≠ 1 - 0)
    · exact (by decide : (1 : UInt8) ≠ 1 - 1)

/-- An update is never blocked. In every state that a disciplined run with failing
calls and power losses can reach, a package of the tool for the slot not in use
goes into its test after two recoveries, which settle on the slot committed last,
if its payload fits. From there a commit settles on the new image, and a recovery
or a rollback on the one committed last. -/
theorem update_always_installs (key : UInt32) {start storage : MemStorage capacity} {past : List (EngineStep capacity len)}
    (initial : start.state = .activeSlot0)
    (reached : (engine ((DemoSigner.mk key).scheme len) capacity).Reaches start past storage)
    (disciplined : ∀ step ∈ past, StagesSettled step) {payload : List UInt8}
    (room : payload.length ≤ min capacity otaMaxPayload) :
    ∃ file package signature first tested,
      cmdOtaStage len payload key (1 - (committedImage start past).slot) = some file ∧
      splitFile len file = some (package, payload, signature) ∧
      (calmEngine ((DemoSigner.mk key).scheme len) capacity).run storage [.recover, .recover] =
        some ([.ok (.slot first), .ok (.slot (committedImage start past).slot)],
          { storage with state := .settled (committedImage start past).slot }) ∧
      (calmEngine ((DemoSigner.mk key).scheme len) capacity).run storage
          [.recover, .recover, .stage package payload signature, .promote] =
        some ([.ok (.slot first), .ok (.slot (committedImage start past).slot), .ok .done,
          .ok (.slot (1 - (committedImage start past).slot))], tested) ∧
      payload <+: tested.image (1 - (committedImage start past).slot) ∧
      tested.image (committedImage start past).slot = (committedImage start past).bytes ∧
      (calmEngine ((DemoSigner.mk key).scheme len) capacity).step tested .commit =
        some (.ok (.slot (1 - (committedImage start past).slot)),
          { tested with state := .settled (1 - (committedImage start past).slot) }) ∧
      ∀ call ∈ [EngineCall.recover, .rollback], ∃ reply,
        (calmEngine ((DemoSigner.mk key).scheme len) capacity).step tested call =
          some (.ok (.slot reply), { tested with state := .settled (committedImage start past).slot }) := by
  have guarded := reaches_guarded initial reached disciplined
  generalize committedImage start past = image at guarded ⊢
  have fits := Nat.le_min.mp room
  have small : payload.length < UInt32.size := Nat.lt_of_le_of_lt fits.2 (by decide)
  have length : payload.length = (UInt32.ofNat payload.length).toNat := (UInt32.toNat_ofNat_of_lt' small).symm
  have written := cmdOtaStage_writes len payload key (1 - image.slot)
  have parts := splitFile_made small (1 - image.slot)
    ((DemoSigner.mk key).hash len (header ⟨1 - image.slot, UInt32.ofNat payload.length⟩ ++ payload))
  have within : ¬ 1 - image.slot > 1 := by
    rcases slot_cases guarded.named with zero | one
    · rw [zero]
      decide
    · rw [one]
      decide
  rw [if_neg within] at parts
  obtain ⟨first, recoveries⟩ := two_recoveries ((DemoSigner.mk key).scheme len) guarded
  obtain ⟨tested, installs, testing, front, kept⟩ :=
    @stage_promotes capacity len ⟨key⟩ { storage with state := .settled image.slot } _ guarded.named
      ⟨1 - image.slot, UInt32.ofNat payload.length⟩ payload rfl length fits
  refine ⟨_, _, _, first, tested, written, parts, recoveries, ?_, front, kept.trans guarded.intact, ?_, ?_⟩
  · have split := Machine.run_append (calmEngine ((DemoSigner.mk key).scheme len) capacity) storage [.recover, .recover]
      [stageSigned ⟨key⟩ len ⟨1 - image.slot, UInt32.ofNat payload.length⟩ payload, .promote]
    rw [recoveries, Option.bind_some, installs] at split
    exact split
  · apply calm_moves _ (rfl : transition _ = some committed)
    rw [testing]
    rfl
  · intro call member
    rcases List.mem_pair.mp member with rfl | rfl
    · refine ⟨image.slot, calm_moves _ transition_recover ?_⟩
      rw [testing]
      exact recovered_testing guarded.named _
    · refine ⟨1 - image.slot, calm_moves _ transition_rollback ?_⟩
      rw [testing]
      rfl

/-- The power went off after two of the three bytes staged for slot 1. -/
theorem update_always_installs_after_cut :
    ∃ (storage : MemStorage 16) (past : List (EngineStep 16 32)),
      (engine ((DemoSigner.mk 0xCAFE).scheme 32) 16).Reaches (MemStorage.new 16) past storage ∧
      storage.image 1 = [1, 2, 0, 0, 0, 0, 0, 0, 0, 0, 0, 0, 0, 0, 0, 0] ∧
      ∃ file package signature first tested,
        cmdOtaStage 32 [4, 5, 6, 7] 0xCAFE 1 = some file ∧
        splitFile 32 file = some (package, [4, 5, 6, 7], signature) ∧
        (calmEngine ((DemoSigner.mk 0xCAFE).scheme 32) 16).run storage [.recover, .recover] =
          some ([.ok (.slot first), .ok (.slot 0)], { storage with state := .activeSlot0 }) ∧
        (calmEngine ((DemoSigner.mk 0xCAFE).scheme 32) 16).run storage
            [.recover, .recover, .stage package [4, 5, 6, 7] signature, .promote] =
          some ([.ok (.slot first), .ok (.slot 0), .ok .done, .ok (.slot 1)], tested) ∧
        [4, 5, 6, 7] <+: tested.image 1 := by
  have cut := @stageSigned_cut 16 32 ⟨0xCAFE⟩ (.new 16) _ ⟨1, 3⟩ [1, 2, 3] 2 rfl (by decide) rfl
  have torn := Machine.Reaches.call .start cut
  obtain ⟨file, package, signature, first, tested, written, parts, recoveries, installs, front, _⟩ :=
    @update_always_installs 16 32 0xCAFE (MemStorage.new 16) _ _ rfl torn
      (List.forall_mem_singleton.mpr (settled_signed (.inl ⟨rfl, rfl⟩))) [4, 5, 6, 7] (by decide)
  exact ⟨_, _, torn, by decide, file, package, signature, first, tested, written, parts, recoveries, installs, front⟩

end TptChassis.Proofs.OtaInstall

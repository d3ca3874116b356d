import TptChassis.Proofs.OtaRunning

/-! Which image a rollback returns to. As long as nothing is staged during a
test, the journal falls back to the image committed last, and nothing has
written to it since. -/

namespace TptChassis.Proofs.OtaRollback
open Ota OtaEffects OtaJournal OtaRunning Slices

variable {capacity len : Nat} {signer : SignatureScheme len}

/-- An image that was committed: its slot and its bytes at that time. -/
structure Image where
  slot : UInt8
  bytes : List UInt8
deriving DecidableEq

/-- The storage can still fall back to the image. -/
structure Guards (storage : MemStorage capacity) (image : Image) : Prop where
  named : image.slot.toNat < 2
  journal : Fallback image.slot storage.state
  intact : storage.image image.slot = image.bytes

theorem guards_initial {storage : MemStorage capacity} (initial : storage.state = .activeSlot0) :
    Guards storage ⟨0, storage.image 0⟩ :=
  ⟨Nat.two_pos, initial ▸ .settled, rfl⟩

/-- What one call can do to a guarded image, when staging stays off its slot: it
commits the image under test instead, or it leaves the old one guarded. -/
inductive Keeps (before : MemStorage capacity) (image : Image) (call : EngineCall len) :
    Option (Except OtaError EngineReply) → MemStorage capacity → Prop where
  | commits {output} (called : call = .commit) (tested : before.state = .testing (1 - image.slot) image.slot)
      (answer : output = none ∨ output = some (.ok (.slot (1 - image.slot)))) :
      Keeps before image call output { before with state := .settled (1 - image.slot) }
  | refuses {output} (called : call = .commit) (unfinished : Unfinished output) : Keeps before image call output before
  | guards {output after} (other : call ≠ .commit) (guarded : Guards after image) : Keeps before image call output after

theorem engine_keeps {before after : MemStorage capacity} {image : Image} {input : EngineInput len} {output}
    (guarded : Guards before image)
    (apart : ∀ package payload signature, input.call = .stage package payload signature →
      Accepts signer capacity package payload signature → package.slot.toNat < 2 → package.slot ≠ image.slot)
    (called : (engine signer capacity).step before input = some (output, after)) :
    Keeps before image input.call output after := by
  obtain ⟨call, plan⟩ := input
  cases engine_cases called with
  | idle unfinished =>
    by_cases commit : call = .commit
    · exact .refuses commit unfinished
    · exact .guards commit guarded
  | read same =>
    cases same
    exact .guards nofun guarded
  | moved moves decision answer =>
    rcases guarded.journal.moves guarded.named moves decision with ⟨commit, tested, rfl, rfl⟩ | ⟨other, moved⟩
    · exact .commits commit tested answer
    · exact .guards other ⟨guarded.named, .advance moved, guarded.intact⟩
  | torn same accepted stored =>
    cases same
    have write := writeSlot_effect stored
    refine .guards nofun ⟨guarded.named, write.state ▸ guarded.journal, ?_⟩
    exact (write.others _ (apart _ _ _ rfl accepted write.named).symm).trans guarded.intact
  | staged same accepted stored =>
    cases same
    have write := writeSlot_effect stored
    have different := apart _ _ _ rfl accepted write.named
    refine .guards nofun ⟨guarded.named, ?_, ?_⟩
    · rw [other_cases guarded.named write.named different]
      exact .pending
    · exact (write.others _ different.symm).trans guarded.intact

/-- The image committed last by the calls of a history, or slot 0 as it was at
the start. -/
def lastCommit (start : MemStorage capacity) : List (CalmStep capacity len) → Image
  | [] => ⟨0, start.image 0⟩
  | step :: past =>
    match step.input, step.output with
    | .commit, .ok (.slot slot) => ⟨slot, step.after.image slot⟩
    | _, _ => lastCommit start past

/-- The step, if it stages anything, does so for a slot that is not in use. -/
def TargetsOther (step : CalmStep capacity len) : Prop :=
  ∀ package payload signature, step.input = .stage package payload signature →
    step.before.state.activeSlot ≠ some package.slot

/-- The step stages an existing slot, with a package that passes its checks,
while an image is being tested. -/
def StagesDuringTest (signer : SignatureScheme len) (step : CalmStep capacity len) : Prop :=
  ∃ package payload signature active fallback, step.input = .stage package payload signature ∧
    Accepts signer capacity package payload signature ∧ package.slot.toNat < 2 ∧
    step.before.state = .testing active fallback

private theorem lastCommit_other {start before after : MemStorage capacity} {call : EngineCall len} {output}
    {past : List (CalmStep capacity len)} (other : call ≠ .commit) :
    lastCommit start (⟨before, call, output, after⟩ :: past) = lastCommit start past := by
  cases call with
  | commit => exact absurd rfl other
  | _ => rfl

private theorem lastCommit_refused {start before after : MemStorage capacity} {call : EngineCall len} {output}
    {past : List (CalmStep capacity len)} (unfinished : Unfinished (some output)) :
    lastCommit start (⟨before, call, output, after⟩ :: past) = lastCommit start past := by
  cases output with
  | error error => cases call <;> rfl
  | ok reply => exact absurd rfl (unfinished reply)

theorem reaches_guards {start storage : MemStorage capacity} {past : List (CalmStep capacity len)}
    (initial : start.state = .activeSlot0) (reached : (calmEngine signer capacity).Reaches start past storage)
    (others : ∀ step ∈ past, TargetsOther step) (apart : ∀ step ∈ past, ¬ StagesDuringTest signer step) :
    Guards storage (lastCommit start past) := by
  induction reached with
  | start => exact guards_initial initial
  | @call past before call output after earlier called ih =>
    obtain ⟨other, others⟩ := List.forall_mem_cons.mp others
    obtain ⟨quiet, apart⟩ := List.forall_mem_cons.mp apart
    have guarded := ih others apart
    have away : ∀ package payload signature, call = .stage package payload signature →
        Accepts signer capacity package payload signature → package.slot.toNat < 2 →
        package.slot ≠ (lastCommit start past).slot := by
      intro package payload signature stages accepted named same
      apply other package payload signature stages
      rw [same]
      apply guarded.journal.untested guarded.named
      intro active fallback testing
      exact quiet ⟨package, payload, signature, active, fallback, stages, accepted, named, testing⟩
    cases engine_keeps guarded away (calm_called.mp called) with
    | commits commit tested answer =>
      rcases answer with lost | answer
      · cases lost
      · cases answer
        cases commit
        exact ⟨other_named guarded.named, .settled, rfl⟩
    | refuses commit unfinished => exact (lastCommit_refused unfinished).symm ▸ guarded
    | guards commit guarded => exact (lastCommit_other commit).symm ▸ guarded

/-- When a rollback or a recovery ends with an active slot, that slot is the one
committed last, with the bytes it had then. This holds of runs that stage only
for the slot not in use, and nothing during a test. -/
theorem restores_last_commit {start storage : MemStorage capacity} {last : CalmStep capacity len} {past}
    (initial : start.state = .activeSlot0) (reached : (calmEngine signer capacity).Reaches start (last :: past) storage)
    (others : ∀ step ∈ last :: past, TargetsOther step)
    (apart : ∀ step ∈ last :: past, ¬ StagesDuringTest signer step)
    (restores : last.input = .rollback ∨ last.input = .recover)
    (active : storage.state = .activeSlot0 ∨ storage.state = .activeSlot1) :
    storage.state.activeSlot = some (lastCommit start past).slot ∧
      storage.image (lastCommit start past).slot = (lastCommit start past).bytes := by
  have guarded := reaches_guards initial reached others apart
  have same : lastCommit start (last :: past) = lastCommit start past := by
    apply lastCommit_other
    intro commit
    rcases restores with rollback | recover
    · cases rollback.symm.trans commit
    · cases recover.symm.trans commit
  rw [same] at guarded
  refine ⟨guarded.journal.untested guarded.named ?_, guarded.intact⟩
  intro tested fallback testing
  rcases active with active | active <;> cases active.symm.trans testing

private theorem targets_signed {before after : MemStorage capacity} {signer : DemoSigner} {package : UpdatePackage}
    {payload : List UInt8} {output} (other : before.state.activeSlot ≠ some package.slot) :
    TargetsOther ⟨before, stageSigned signer len package payload, output, after⟩ := by
  intro _ _ _ stages
  obtain ⟨rfl, _, _⟩ := EngineCall.stage.inj stages
  exact other

private theorem targets_moved {before after : MemStorage capacity} {call : EngineCall len} {decided output}
    (moves : transition call = some decided) : TargetsOther ⟨before, call, output, after⟩ := by
  intro _ _ _ stages
  cases stages
  cases moves

private theorem quiet_untested {before after : MemStorage capacity} {call : EngineCall len} {output}
    (untested : ∀ active fallback, before.state ≠ .testing active fallback) :
    ¬ StagesDuringTest signer ⟨before, call, output, after⟩ := by
  intro stages
  obtain ⟨_, _, _, active, fallback, _, _, _, testing⟩ := stages
  exact untested active fallback testing

private theorem quiet_moved {before after : MemStorage capacity} {call : EngineCall len} {decided output}
    (moves : transition call = some decided) : ¬ StagesDuringTest signer ⟨before, call, output, after⟩ := by
  intro during
  obtain ⟨_, _, _, _, _, stages, _⟩ := during
  cases stages
  cases moves

theorem restores_slot0 :
    ∃ (storage : MemStorage 16) (last : CalmStep 16 32) (past : List (CalmStep 16 32)),
      (calmEngine ((DemoSigner.mk 0xCAFE).scheme 32) 16).Reaches (MemStorage.new 16) (last :: past) storage ∧
      last.input = .rollback ∧ storage.image 1 ≠ (MemStorage.new 16).image 1 ∧
      storage.state.activeSlot = some (lastCommit (MemStorage.new 16) past).slot ∧
      storage.image (lastCommit (MemStorage.new 16) past).slot = (lastCommit (MemStorage.new 16) past).bytes := by
  have staged : (calmEngine ((DemoSigner.mk 0xCAFE).scheme 32) 16).step (MemStorage.new 16)
      (stageSigned ⟨0xCAFE⟩ 32 ⟨1, 3⟩ [1, 2, 3]) = some (.ok .done, _) :=
    calm_stages ⟨0xCAFE⟩ ⟨1, 3⟩ rfl (by decide) rfl
  have tested := Machine.Reaches.call (.call .start staged) (calm_moves _ transition_promote rfl)
  have reached := tested.call (calm_moves _ transition_rollback rfl)
  refine ⟨_, _, _, reached, rfl, by decide, restores_last_commit rfl reached ?_ ?_ (.inl rfl) (.inl rfl)⟩
  · refine List.forall_mem_cons.mpr ⟨targets_moved rfl, List.forall_mem_cons.mpr ⟨targets_moved rfl, ?_⟩⟩
    exact List.forall_mem_singleton.mpr (targets_signed (by decide))
  · refine List.forall_mem_cons.mpr ⟨quiet_moved rfl, List.forall_mem_cons.mpr ⟨quiet_moved rfl, ?_⟩⟩
    exact List.forall_mem_singleton.mpr (quiet_untested nofun)

/-- Staging for slot 0 while slot 1 is tested: the rollback that follows another
promotion leads to slot 1, which was never committed. -/
theorem restores_uncommitted :
    ¬ ∀ (capacity len : Nat) (signer : SignatureScheme len) (start storage : MemStorage capacity)
        (last : CalmStep capacity len) (past : List (CalmStep capacity len)), start.state = .activeSlot0 →
        (calmEngine signer capacity).Reaches start (last :: past) storage →
        (∀ step ∈ last :: past, TargetsOther step) → last.input = .rollback ∨ last.input = .recover →
        storage.state = .activeSlot0 ∨ storage.state = .activeSlot1 →
        storage.state.activeSlot = some (lastCommit start past).slot ∧
          storage.image (lastCommit start past).slot = (lastCommit start past).bytes := by
  intro claimed
  have staged : (calmEngine ((DemoSigner.mk 0xCAFE).scheme 32) 16).step (MemStorage.new 16)
      (stageSigned ⟨0xCAFE⟩ 32 ⟨1, 3⟩ [1, 2, 3]) = some (.ok .done, _) :=
    calm_stages ⟨0xCAFE⟩ ⟨1, 3⟩ rfl (by decide) rfl
  have tested := Machine.Reaches.call (.call .start staged) (calm_moves _ transition_promote rfl)
  have again := tested.call (calm_stages ⟨0xCAFE⟩ ⟨0, 3⟩ (show [4, 5, 6].length = 3 from rfl) (by decide) rfl)
  have swapped := again.call (calm_moves _ transition_promote rfl)
  have reached := swapped.call (calm_moves _ transition_rollback rfl)
  obtain ⟨named, _⟩ := claimed 16 32 _ _ _ _ _ rfl reached (by
    refine List.forall_mem_cons.mpr ⟨targets_moved rfl, List.forall_mem_cons.mpr ⟨targets_moved rfl, ?_⟩⟩
    refine List.forall_mem_cons.mpr ⟨targets_signed (by decide), List.forall_mem_cons.mpr ⟨targets_moved rfl, ?_⟩⟩
    exact List.forall_mem_singleton.mpr (targets_signed (by decide))) (.inl rfl) (.inr rfl)
  exact absurd named (by decide)

end TptChassis.Proofs.OtaRollback

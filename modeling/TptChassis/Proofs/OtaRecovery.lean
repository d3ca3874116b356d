import TptChassis.Proofs.OtaRollback

/-! Updates that lose power. Every storage call may be the last before the power
goes off, so the states reached include each moment in the middle of a call. -/

namespace TptChassis.Proofs.OtaRecovery
open Ota OtaEffects OtaJournal OtaRollback Slices

variable {capacity len : Nat} {signer : SignatureScheme len}

abbrev EngineStep (capacity len : Nat) :=
  Step (MemStorage capacity) (EngineInput len) (Option (Except OtaError EngineReply))

/-- Only an update of the slot not in use is staged, and only while none is under way. -/
def StagesSettled (step : EngineStep capacity len) : Prop :=
  ∀ package payload signature, step.input.call = .stage package payload signature →
    (step.before.state = .activeSlot0 ∧ package.slot = 1) ∨ (step.before.state = .activeSlot1 ∧ package.slot = 0)

/-- The image committed last: by a commit that has changed the journal, whether
or not the power went off before it returned. -/
def committedImage (start : MemStorage capacity) : List (EngineStep capacity len) → Image
  | [] => ⟨0, start.image 0⟩
  | step :: past =>
    match step.input.call, step.before.state with
    | .commit, .testing active _ =>
      if step.after.state = step.before.state then committedImage start past else ⟨active, step.after.image active⟩
    | _, _ => committedImage start past

private theorem committedImage_other {start before after : MemStorage capacity} {input : EngineInput len} {output}
    {past : List (EngineStep capacity len)} (other : input.call ≠ .commit) :
    committedImage start (⟨before, input, output, after⟩ :: past) = committedImage start past := by
  obtain ⟨call, plan⟩ := input
  cases call with
  | commit => exact absurd rfl other
  | _ => rfl

private theorem committedImage_taken {start before after : MemStorage capacity} {input : EngineInput len} {output}
    {past : List (EngineStep capacity len)} {active fallback : UInt8} (commit : input.call = .commit)
    (tested : before.state = .testing active fallback) (moved : after.state ≠ before.state) :
    committedImage start (⟨before, input, output, after⟩ :: past) = ⟨active, after.image active⟩ := by
  simp only [committedImage, commit, if_neg moved]
  rw [tested]

private theorem committedImage_same {start before after : MemStorage capacity} {input : EngineInput len} {output}
    {past : List (EngineStep capacity len)} (same : after.state = before.state) :
    committedImage start (⟨before, input, output, after⟩ :: past) = committedImage start past := by
  simp only [committedImage]
  split
  · rw [if_pos same]
  · rfl

theorem reaches_guarded {start storage : MemStorage capacity} {past : List (EngineStep capacity len)}
    (initial : start.state = .activeSlot0) (reached : (engine signer capacity).Reaches start past storage)
    (disciplined : ∀ step ∈ past, StagesSettled step) : Guards storage (committedImage start past) := by
  induction reached with
  | start => exact guards_initial initial
  | @call past before input output after earlier called ih =>
    obtain ⟨last, disciplined⟩ := List.forall_mem_cons.mp disciplined
    have guarded := ih disciplined
    have away : ∀ package payload signature, input.call = .stage package payload signature →
        Accepts signer capacity package payload signature → package.slot.toNat < 2 →
        package.slot ≠ (committedImage start past).slot := by
      intro package payload signature stages _ _ same
      have untested : ∀ active fallback, before.state ≠ .testing active fallback := by
        intro active fallback testing
        rcases last package payload signature stages with ⟨settled, _⟩ | ⟨settled, _⟩
        · cases settled.symm.trans testing
        · cases settled.symm.trans testing
      have inUse := guarded.journal.untested guarded.named untested
      rw [← same] at inUse
      rcases last package payload signature stages with ⟨settled, target⟩ | ⟨settled, target⟩
      · rw [settled, target] at inUse
        cases inUse
      · rw [settled, target] at inUse
        cases inUse
    cases engine_keeps guarded away called with
    | commits commit tested answer =>
      rw [committedImage_taken commit tested (tested ▸ settled_untested)]
      exact ⟨other_named guarded.named, .settled, rfl⟩
    | refuses commit unfinished => exact (committedImage_same rfl).symm ▸ guarded
    | guards commit guarded => exact (committedImage_other commit).symm ▸ guarded

def Resolved (slot : UInt8) (state : SlotState) : Prop := state = .settled slot ∨ state = .testing (1 - slot) slot

/-- A recovery that returns leaves nothing pending, and ends any test. -/
theorem recover_resolves {before after : MemStorage capacity} {image : Image} {plan : List Fault} {reply}
    (guarded : Guards before image)
    (called : (engine signer capacity).step before ⟨.recover, plan⟩ = some (some (.ok reply), after)) :
    Resolved image.slot after.state ∧ (Resolved image.slot before.state → after.state = .settled image.slot) := by
  cases engine_cases called with
  | idle unfinished => exact absurd rfl (unfinished reply)
  | read same => cases same
  | torn same => cases same
  | staged same => cases same
  | moved moves decision =>
    rcases guarded.journal.moves guarded.named moves decision with ⟨commit, _⟩ | ⟨_, settled | ⟨pending, testing⟩⟩
    · cases commit
    · exact ⟨.inl settled, fun _ => settled⟩
    · refine ⟨.inr testing, ?_⟩
      intro resolved
      rcases resolved with settled | tested
      · exact absurd (settled.symm.trans pending) settled_not_pending
      · cases tested.symm.trans pending

/-- The step is not a commit or a stage call that changes the journal. -/
def LeavesUpdates (step : EngineStep capacity len) : Prop :=
  step.input.call = .commit ∨ (∃ package payload signature, step.input.call = .stage package payload signature) →
    step.after.state = step.before.state

theorem engine_resolved {before after : MemStorage capacity} {image : Image} {input : EngineInput len} {output}
    (guarded : Guards before image) (resolved : Resolved image.slot before.state)
    (leaves : LeavesUpdates ⟨before, input, output, after⟩)
    (called : (engine signer capacity).step before input = some (output, after)) : Resolved image.slot after.state := by
  cases engine_cases called with
  | idle => exact resolved
  | read => exact resolved
  | torn _ _ stored => exact (writeSlot_effect stored).state ▸ resolved
  | staged same => exact (leaves (.inr ⟨_, _, _, same⟩) : _ = before.state) ▸ resolved
  | moved moves decision =>
    rcases guarded.journal.moves guarded.named moves decision with ⟨commit, _⟩ | ⟨_, settled | ⟨_, testing⟩⟩
    · exact (leaves (.inl commit) : _ = before.state) ▸ resolved
    · exact .inl settled
    · exact .inr testing

def Recovers (step : EngineStep capacity len) : Prop :=
  step.input.call = .recover ∧ ∃ reply, step.output = some (.ok reply)

private theorem committedImage_leaves {start : MemStorage capacity} {step : EngineStep capacity len}
    {past : List (EngineStep capacity len)} (leaves : LeavesUpdates step) :
    committedImage start (step :: past) = committedImage start past := by
  by_cases commit : step.input.call = .commit
  · exact committedImage_same (leaves (.inl commit))
  · exact committedImage_other commit

private theorem recovers_other {step : EngineStep capacity len} (recovers : Recovers step) : step.input.call ≠ .commit := by
  intro commit
  cases recovers.1.symm.trans commit

theorem reaches_resolved {start storage : MemStorage capacity} {between past : List (EngineStep capacity len)}
    {first : EngineStep capacity len} (initial : start.state = .activeSlot0)
    (reached : (engine signer capacity).Reaches start (between ++ first :: past) storage)
    (disciplined : ∀ step ∈ between ++ first :: past, StagesSettled step) (recovers : Recovers first)
    (leaves : ∀ step ∈ between, LeavesUpdates step) :
    Resolved (committedImage start (between ++ first :: past)).slot storage.state := by
  induction between generalizing storage with
  | nil =>
    cases reached with
    | @call _ before input output _ earlier called =>
      have guarded := reaches_guarded initial earlier (List.forall_mem_cons.mp disciplined).2
      rw [List.nil_append, committedImage_other (recovers_other recovers)]
      obtain ⟨recover, reply, returned⟩ := recovers
      obtain ⟨call, plan⟩ := input
      cases recover
      cases returned
      exact (recover_resolves guarded called).1
  | cons step between ih =>
    obtain ⟨last, quiet⟩ := List.forall_mem_cons.mp leaves
    have older := (List.forall_mem_cons.mp disciplined).2
    rw [List.cons_append, committedImage_leaves last]
    cases reached with
    | call earlier called =>
      have guarded := reaches_guarded initial earlier older
      exact engine_resolved guarded (ih earlier older quiet) last called

theorem recover_settled {before after : MemStorage capacity} {image : Image} {plan : List Fault} {output}
    (guarded : Guards before image) (settled : before.state = .settled image.slot)
    (called : (engine signer capacity).step before ⟨.recover, plan⟩ = some (output, after)) : after = before := by
  cases engine_cases called with
  | idle => rfl
  | read => rfl
  | torn same => cases same
  | staged same => cases same
  | moved moves decision =>
    cases moves
    rw [settled, recovered_settled guarded.named] at decision
    cases decision
    rw [← settled]

/-- An interrupted update leaves the vehicle with a good image, in every state
that a disciplined run with failing calls and power losses can reach. (i) The
image committed last is intact. (ii) Recovery returns when nothing befalls it.
(iii) A second recovery with no commit and no newly staged update since the
first settles the journal on that image, and recovery then changes nothing. -/
theorem update_recoverable {start storage : MemStorage capacity} {past : List (EngineStep capacity len)}
    (initial : start.state = .activeSlot0) (reached : (engine signer capacity).Reaches start past storage)
    (disciplined : ∀ step ∈ past, StagesSettled step) :
    storage.image (committedImage start past).slot = (committedImage start past).bytes ∧
    (∃ slot after, (engine signer capacity).step storage ⟨.recover, []⟩ = some (some (.ok (.slot slot)), after)) ∧
    ∀ second between first earlier, past = second :: (between ++ first :: earlier) → Recovers second → Recovers first →
      (∀ step ∈ between, LeavesUpdates step) →
      storage.state.activeSlot = some (committedImage start past).slot ∧
      (storage.state = .activeSlot0 ∨ storage.state = .activeSlot1) ∧
      ∀ plan output after, (engine signer capacity).step storage ⟨.recover, plan⟩ = some (output, after) →
        after = storage := by
  have guarded := reaches_guarded initial reached disciplined
  refine ⟨guarded.intact, ?_, ?_⟩
  · obtain ⟨slot, next, decision⟩ := guarded.journal.recovers guarded.named
    exact ⟨slot, _, moves_perform signer storage rfl decision⟩
  · intro second between first earlier history again recovers leaves
    subst history
    have settled : storage.state = .settled (committedImage start (second :: (between ++ first :: earlier))).slot := by
      rw [committedImage_other (recovers_other again)]
      have older := (List.forall_mem_cons.mp disciplined).2
      cases reached with
      | @call _ before input output _ since called =>
        have resolved := reaches_resolved initial since older recovers leaves
        have before := reaches_guarded initial since older
        obtain ⟨recover, reply, returned⟩ := again
        obtain ⟨call, plan⟩ := input
        cases recover
        cases returned
        exact (recover_resolves before called).2 resolved
    refine ⟨?_, ?_, fun plan output after called => recover_settled guarded settled called⟩
    · rw [settled, settled_activeSlot, settled_slot guarded.named]
    · rw [settled, SlotState.settled]
      split
      · exact .inl rfl
      · exact .inr rfl

theorem settled_moved {before after : MemStorage capacity} {call : EngineCall len} {plan : List Fault} {decided}
    {output} (moves : transition call = some decided) : StagesSettled ⟨before, ⟨call, plan⟩, output, after⟩ := by
  intro _ _ _ stages
  cases stages
  cases moves

theorem settled_signed {before after : MemStorage capacity} {signer : DemoSigner} {package : UpdatePackage}
    {payload : List UInt8} {plan : List Fault} {output}
    (idle : (before.state = .activeSlot0 ∧ package.slot = 1) ∨ (before.state = .activeSlot1 ∧ package.slot = 0)) :
    StagesSettled ⟨before, ⟨stageSigned signer len package payload, plan⟩, output, after⟩ := by
  intro _ _ _ stages
  obtain ⟨rfl, _, _⟩ := EngineCall.stage.inj stages
  exact idle

/-- The power goes off after two of the three bytes staged for slot 1. -/
theorem update_recoverable_after_cut :
    ∃ (storage : MemStorage 16) (past : List (EngineStep 16 32)),
      (engine ((DemoSigner.mk 0xCAFE).scheme 32) 16).Reaches (MemStorage.new 16) past storage ∧
      past.length = 3 ∧ storage.image 1 = [1, 2, 0, 0, 0, 0, 0, 0, 0, 0, 0, 0, 0, 0, 0, 0] ∧
      storage.image (committedImage (MemStorage.new 16) past).slot = (committedImage (MemStorage.new 16) past).bytes ∧
      (∃ slot after, (engine ((DemoSigner.mk 0xCAFE).scheme 32) 16).step storage ⟨.recover, []⟩ =
        some (some (.ok (.slot slot)), after)) ∧
      storage.state.activeSlot = some (committedImage (MemStorage.new 16) past).slot := by
  have opened := Machine.Reaches.call .start
    (moves_perform ((DemoSigner.mk 0xCAFE).scheme 32) (MemStorage.new 16) transition_recover rfl)
  have torn := opened.call (stageSigned_cut ⟨0xCAFE⟩ ⟨1, 3⟩ 2 (show [1, 2, 3].length = 3 from rfl) (by decide) rfl)
  have reached := torn.call (moves_perform _ _ transition_recover rfl)
  obtain ⟨intact, recovers, settles⟩ := update_recoverable rfl reached (by
    refine List.forall_mem_cons.mpr ⟨settled_moved rfl, List.forall_mem_cons.mpr ⟨settled_signed (.inl ⟨rfl, rfl⟩), ?_⟩⟩
    exact List.forall_mem_singleton.mpr (settled_moved rfl))
  refine ⟨_, _, reached, rfl, by decide, intact, recovers, (settles _ [_] _ _ rfl ⟨rfl, _, rfl⟩ ⟨rfl, _, rfl⟩ ?_).1⟩
  exact List.forall_mem_singleton.mpr fun _ => rfl

/-- Two recoveries with an update staged in between leave that update in its
test, although nothing was committed. -/
theorem recover_twice_testing :
    ¬ ∀ (capacity len : Nat) (signer : SignatureScheme len) (start storage : MemStorage capacity)
        (past : List (EngineStep capacity len)), start.state = .activeSlot0 →
        (engine signer capacity).Reaches start past storage → (∀ step ∈ past, StagesSettled step) →
        ∀ (second : EngineStep capacity len) (between : List (EngineStep capacity len)) first earlier,
          past = second :: (between ++ first :: earlier) → Recovers second → Recovers first →
          (∀ step ∈ between, step.input.call ≠ .commit) →
          storage.state.activeSlot = some (committedImage start past).slot ∧
          (storage.state = .activeSlot0 ∨ storage.state = .activeSlot1) := by
  intro claimed
  have opened := Machine.Reaches.call .start
    (moves_perform ((DemoSigner.mk 0xCAFE).scheme 32) (MemStorage.new 16) transition_recover rfl)
  have staged := opened.call (stageSigned_performs ⟨0xCAFE⟩ ⟨1, 3⟩ (show [1, 2, 3].length = 3 from rfl) (by decide) rfl)
  have reached := staged.call (moves_perform _ _ transition_recover rfl)
  obtain ⟨_, settled⟩ := claimed 16 32 _ _ _ _ rfl reached (by
    refine List.forall_mem_cons.mpr ⟨settled_moved rfl, List.forall_mem_cons.mpr ⟨settled_signed (.inl ⟨rfl, rfl⟩), ?_⟩⟩
    exact List.forall_mem_singleton.mpr (settled_moved rfl)) _ [_] _ _ rfl ⟨rfl, _, rfl⟩ ⟨rfl, _, rfl⟩
      (List.forall_mem_singleton.mpr nofun)
  exact absurd settled (by decide)

end TptChassis.Proofs.OtaRecovery

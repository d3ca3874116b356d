import TptChassis.Proofs.OtaJournal

/-! Whether staging can overwrite the image in use. The engine takes the slot
from the package and never compares it with the journal. -/

namespace TptChassis.Proofs.OtaRunning
open Ota OtaEffects OtaJournal Slices

variable {capacity len : Nat} {signer : SignatureScheme len}

def Named (storage : MemStorage capacity) : Prop := ∃ slot, slot.toNat < 2 ∧ Fallback slot storage.state

theorem named_initial {storage : MemStorage capacity} (initial : storage.state = .activeSlot0) : Named storage :=
  ⟨0, Nat.two_pos, initial ▸ .settled⟩

theorem engine_named {before after : MemStorage capacity} {input : EngineInput len} {output} (held : Named before)
    (called : (engine signer capacity).step before input = some (output, after)) : Named after := by
  obtain ⟨slot, named, fallback⟩ := held
  cases engine_cases called with
  | idle => exact ⟨slot, named, fallback⟩
  | read => exact ⟨slot, named, fallback⟩
  | moved moves decision =>
    rcases fallback.moves named moves decision with ⟨_, _, _, rfl⟩ | ⟨_, moved⟩
    · exact ⟨1 - slot, other_named named, .settled⟩
    · exact ⟨slot, named, .advance moved⟩
  | torn _ _ stored => exact ⟨slot, named, (writeSlot_effect stored).state ▸ fallback⟩
  | staged _ _ stored =>
    have target := (writeSlot_effect stored).named
    exact ⟨_, other_named target, .candidate target⟩

theorem reaches_named {start storage : MemStorage capacity} {past} (initial : start.state = .activeSlot0)
    (reached : (engine signer capacity).Reaches start past storage) : Named storage :=
  reached.invariant (named_initial initial) fun _ _ _ _ held called => engine_named held called

theorem calm_called {before after : MemStorage capacity} {call : EngineCall len} {output} :
    (calmEngine signer capacity).step before call = some (output, after) ↔
      (engine signer capacity).step before ⟨call, []⟩ = some (some output, after) := by
  simp only [calmEngine]
  constructor
  · intro called
    split at called
    next ran =>
      cases called
      exact ran
    next => cases called
  · intro ran
    rw [ran]

theorem calm_moves (signer : SignatureScheme len) {before : MemStorage capacity} {call : EngineCall len} {decided slot next}
    (moves : transition call = some decided) (decision : decided before.state = .ok (slot, next)) :
    (calmEngine signer capacity).step before call = some (.ok (.slot slot), { before with state := next }) :=
  calm_called.mpr (moves_perform signer before moves decision)

theorem calm_stages (signer : DemoSigner) {before written : MemStorage capacity} (package : UpdatePackage)
    {payload : List UInt8} (length : payload.length = package.payloadLen.toNat)
    (room : payload.length ≤ capacity ∧ payload.length ≤ otaMaxPayload)
    (stored : before.writeSlot package.slot 0 payload payload.length = .ok written) :
    (calmEngine (signer.scheme len) capacity).step before (stageSigned signer len package payload) =
      some (.ok .done, { written with state := .pending package.slot }) :=
  calm_called.mpr (stageSigned_performs signer package length room stored)

theorem calm_named {start storage : MemStorage capacity} {past} (initial : start.state = .activeSlot0)
    (reached : (calmEngine signer capacity).Reaches start past storage) : Named storage :=
  reached.invariant (named_initial initial) fun _ _ _ _ held called => engine_named held (calm_called.mp called)

abbrev CalmStep (capacity len : Nat) := Step (MemStorage capacity) (EngineCall len) (Except OtaError EngineReply)

/-- If the step is a stage call, the slot in use before it keeps its bytes. -/
def RunningImageKept (step : CalmStep capacity len) : Prop :=
  ∀ package payload signature, step.input = .stage package payload signature →
    ∃ active, step.before.state.activeSlot = some active ∧ step.after.image active = step.before.image active

/-- The step stages a package that passes its checks, for the slot in use, with
bytes that are not at the front of that slot already. -/
def OverwritesRunning (signer : SignatureScheme len) (step : CalmStep capacity len) : Prop :=
  ∃ package payload signature, step.input = .stage package payload signature ∧
    Accepts signer capacity package payload signature ∧
    step.before.state.activeSlot = some package.slot ∧ ¬ payload <+: step.before.image package.slot

private theorem write_keeps {before written : MemStorage capacity} {package : UpdatePackage} {payload : List UInt8}
    {active : UInt8} {count : Nat} (written' : SlotWrite before written package.slot 0 (payload.take count))
    (harmless : active = package.slot → payload <+: before.image package.slot) :
    written.image active = before.image active := by
  by_cases same : active = package.slot
  · rw [same, written'.bytes, overwrite_front ((List.take_prefix _ _).trans (harmless same))]
  · exact written'.others active same

private theorem stage_keeps_iff {before after : MemStorage capacity} {call : EngineCall len} {output} (held : Named before)
    (called : (calmEngine signer capacity).step before call = some (output, after)) :
    RunningImageKept ⟨before, call, output, after⟩ ↔ ¬ OverwritesRunning signer ⟨before, call, output, after⟩ := by
  obtain ⟨slot, named, fallback⟩ := held
  obtain ⟨active, inUse, which⟩ := fallback.activeSlot named
  constructor
  · intro kept overwrites
    obtain ⟨package, payload, signature, rfl, accepted, target, different⟩ := overwrites
    obtain ⟨running, runs, same⟩ := kept package payload signature rfl
    cases runs.symm.trans target
    cases inUse.symm.trans target
    have exists' : package.slot.toNat < 2 := by
      rcases which with same | same
      · exact same ▸ named
      · exact same ▸ other_named named
    obtain ⟨written, stored⟩ := writeSlot_accepts before exists' accepted.room.1 payload.length
    cases (calm_called.mpr (stage_performs accepted stored)).symm.trans called
    have bytes := (writeSlot_effect stored).bytes
    rw [List.take_length] at bytes
    apply different
    rw [← same]
    exact bytes ▸ front_overwrite _ _
  · intro harmless package payload signature stages
    cases stages
    refine ⟨active, inUse, ?_⟩
    have present (accepted : Accepts signer capacity package payload signature) (target : active = package.slot) :
        payload <+: before.image package.slot := by
      by_contra different
      exact harmless ⟨package, payload, signature, rfl, accepted, target ▸ inUse, different⟩
    cases engine_cases (calm_called.mp called) with
    | idle => rfl
    | read => rfl
    | moved => rfl
    | torn same accepted stored =>
      cases same
      exact write_keeps (writeSlot_effect stored) (present accepted)
    | staged same accepted stored =>
      cases same
      have kept := write_keeps (writeSlot_effect stored) (present accepted)
      exact kept

/-- Staging leaves the image in use alone throughout a run exactly when no
accepted package in it is meant for the slot in use, unless that slot already
begins with the payload. -/
theorem running_image_kept_iff {start storage : MemStorage capacity} {past : List (CalmStep capacity len)}
    (initial : start.state = .activeSlot0) (reached : (calmEngine signer capacity).Reaches start past storage) :
    (∀ step ∈ past, RunningImageKept step) ↔ ∀ step ∈ past, ¬ OverwritesRunning signer step := by
  have each (step) (member : step ∈ past) : RunningImageKept step ↔ ¬ OverwritesRunning signer step := by
    obtain ⟨earlier, before, called⟩ := reached.called member
    exact stage_keeps_iff (calm_named initial before) called
  constructor
  · intro kept step member
    exact (each step member).mp (kept step member)
  · intro harmless step member
    exact (each step member).mpr (harmless step member)

theorem running_image_kept_slot1 :
    ∃ (storage : MemStorage 16) (past : List (CalmStep 16 32)),
      (calmEngine ((DemoSigner.mk 0xCAFE).scheme 32) 16).Reaches (MemStorage.new 16) past storage ∧
      past.length = 1 ∧ ∀ step ∈ past, RunningImageKept step := by
  have called : (calmEngine ((DemoSigner.mk 0xCAFE).scheme 32) 16).step (MemStorage.new 16)
      (stageSigned ⟨0xCAFE⟩ 32 ⟨1, 3⟩ [1, 2, 3]) = some (.ok .done, _) :=
    calm_stages ⟨0xCAFE⟩ ⟨1, 3⟩ rfl (by decide) rfl
  have reached := Machine.Reaches.call .start called
  refine ⟨_, _, reached, rfl, (running_image_kept_iff rfl reached).mpr ?_⟩
  intro step member
  cases List.mem_singleton.mp member
  intro overwrites
  obtain ⟨package, payload, signature, stages, _, target, _⟩ := overwrites
  obtain ⟨rfl, _, _⟩ := EngineCall.stage.inj stages
  exact absurd target (by decide)

/-- A correctly signed package for slot 0, staged while slot 0 is in use. -/
theorem running_image_overwritten :
    ¬ ∀ (capacity len : Nat) (signer : SignatureScheme len) (start storage : MemStorage capacity)
        (past : List (CalmStep capacity len)), start.state = .activeSlot0 →
        (calmEngine signer capacity).Reaches start past storage →
        (∀ step ∈ past, ∀ package payload signature, step.input = .stage package payload signature →
          signer.verify (header package ++ payload) signature = true) →
        ∀ step ∈ past, RunningImageKept step := by
  intro claimed
  have accepted : Accepts ((DemoSigner.mk 0xCAFE).scheme 32) 16 ⟨0, 3⟩ [1, 2, 3] _ :=
    accepts_signed ⟨0xCAFE⟩ rfl (by decide)
  have called : (calmEngine ((DemoSigner.mk 0xCAFE).scheme 32) 16).step (MemStorage.new 16)
      (stageSigned ⟨0xCAFE⟩ 32 ⟨0, 3⟩ [1, 2, 3]) = some (.ok .done, _) :=
    calm_stages ⟨0xCAFE⟩ ⟨0, 3⟩ rfl (by decide) rfl
  have kept := claimed 16 32 _ (MemStorage.new 16) _ _ rfl (.call .start called) (by
    intro step member package payload signature stages
    cases List.mem_singleton.mp member
    obtain ⟨rfl, rfl, rfl⟩ := EngineCall.stage.inj stages
    exact accepted.verified) _ List.mem_cons_self
  obtain ⟨active, inUse, same⟩ := kept _ _ _ rfl
  cases inUse
  exact absurd same (by decide)

end TptChassis.Proofs.OtaRunning

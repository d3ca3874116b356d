import TptChassis.Proofs.OtaRecovery

/-! What stands in the slot that the journal names as candidate or under test.
The journal is written only after the slot, so the image is whole when the slot
is first named; a later stage call can still tear it while it is named. -/

namespace TptChassis.Proofs.OtaVerified
open Ota OtaEffects OtaJournal OtaRunning OtaRecovery Slices

variable {capacity len : Nat} {signer : SignatureScheme len}

/-- The journal names the slot as a candidate, or as the image under test. -/
def Names (state : SlotState) (slot : UInt8) : Prop :=
  state = .pending slot ∨ ∃ fallback, state = .testing slot fallback

/-- The bytes begin with a whole payload that some stage call brought for the
slot and whose signature was accepted. -/
def Verified (signer : SignatureScheme len) (past : List (EngineStep capacity len)) (slot : UInt8) (bytes : List UInt8) :
    Prop :=
  ∃ step ∈ past, ∃ package payload signature, step.input.call = .stage package payload signature ∧
    package.slot = slot ∧ payload.length = package.payloadLen.toNat ∧
    signer.verify (header package ++ payload) signature = true ∧ payload <+: bytes

/-- The step stages a package that passes its checks for the slot the journal
names, and its slot write stops early, with other bytes than were there. -/
def Tears (signer : SignatureScheme len) (step : EngineStep capacity len) : Prop :=
  ∃ package payload signature, step.input.call = .stage package payload signature ∧
    Accepts signer capacity package payload signature ∧ Names step.before.state package.slot ∧
    (slotWriteFault step.input).reach payload.length < payload.length ∧
    ¬ payload.take ((slotWriteFault step.input).reach payload.length) <+: step.before.image package.slot

theorem Verified.later {past : List (EngineStep capacity len)} {slot : UInt8} {bytes : List UInt8}
    (verified : Verified signer past slot bytes) (step : EngineStep capacity len) :
    Verified signer (step :: past) slot bytes := by
  obtain ⟨earlier, member, rest⟩ := verified
  exact ⟨earlier, List.mem_cons_of_mem _ member, rest⟩

theorem Verified.staged {past : List (EngineStep capacity len)} {step : EngineStep capacity len}
    {package : UpdatePackage} {payload : List UInt8} {signature : Buffer UInt8 len} {bytes : List UInt8}
    (called : step.input.call = .stage package payload signature)
    (accepted : Accepts signer capacity package payload signature) :
    Verified signer (step :: past) package.slot (overwrite bytes 0 payload) :=
  ⟨step, List.mem_cons_self, package, payload, signature, called, rfl, accepted.length, accepted.verified,
    front_overwrite _ _⟩

theorem settled_names_nothing (settled : UInt8) {slot : UInt8} : ¬ Names (.settled settled) slot := by
  intro names
  rcases names with pending | ⟨fallback, testing⟩
  · exact settled_not_pending pending
  · exact settled_untested testing

theorem moves_names {before : MemStorage capacity} {call : EngineCall len} {decided answered next} {slot : UInt8}
    (held : Named before) (moves : transition call = some decided) (decision : decided before.state = .ok (answered, next))
    (names : Names next slot) : Names before.state slot := by
  obtain ⟨good, named, fallback⟩ := held
  rcases fallback.moves named moves decision with ⟨_, _, _, rfl⟩ | ⟨_, rfl | ⟨pending, rfl⟩⟩
  · exact absurd names (settled_names_nothing _)
  · exact absurd names (settled_names_nothing _)
  · rcases names with impossible | ⟨_, testing⟩
    · cases impossible
    · cases testing
      exact .inl pending

/-- Whatever befalls the storage calls, the slot named as candidate or under
test begins with a whole verified payload, provided that no stage call tears
the image it names. -/
theorem named_image_verified {start storage : MemStorage capacity} {past : List (EngineStep capacity len)}
    (initial : start.state = .activeSlot0) (reached : (engine signer capacity).Reaches start past storage)
    (whole : ∀ step ∈ past, ¬ Tears signer step) {slot : UInt8} (names : Names storage.state slot) :
    Verified signer past slot (storage.image slot) := by
  induction reached with
  | start =>
    rw [initial] at names
    exact absurd names (settled_names_nothing 0)
  | @call past before input output after earlier called ih =>
    obtain ⟨last, whole⟩ := List.forall_mem_cons.mp whole
    have before_verified (names : Names before.state slot) := (ih whole names).later ⟨before, input, output, after⟩
    cases engine_cases called with
    | idle => exact before_verified names
    | read => exact before_verified names
    | moved moves decision => exact before_verified (moves_names (reaches_named initial earlier) moves decision names)
    | @torn package payload signature _ _ stages accepted stored =>
      have write := writeSlot_effect stored
      have named : Names before.state slot := write.state ▸ names
      by_cases target : slot = package.slot
      · subst slot
        rw [write.bytes]
        by_cases full : payload.length ≤ (slotWriteFault input).reach payload.length
        · rw [List.take_of_length_le full]
          exact .staged stages accepted
        · have present : payload.take ((slotWriteFault input).reach payload.length) <+: before.image package.slot := by
            by_contra different
            exact last ⟨package, payload, signature, stages, accepted, named, Nat.lt_of_not_le full, different⟩
          rw [overwrite_front present]
          exact before_verified named
      · rw [write.others slot target]
        exact before_verified named
    | staged stages accepted stored =>
      have bytes := (writeSlot_effect stored).bytes
      rw [List.take_length] at bytes
      rcases names with pending | ⟨_, testing⟩
      · cases pending
        exact bytes ▸ .staged stages accepted
      · cases testing

private theorem whole_unnamed {before after : MemStorage capacity} {signer : DemoSigner} {package : UpdatePackage}
    {payload : List UInt8} {plan : List Fault} {output} (unnamed : ¬ Names before.state package.slot) :
    ¬ Tears (signer.scheme len) ⟨before, ⟨stageSigned signer len package payload, plan⟩, output, after⟩ := by
  intro tears
  obtain ⟨_, _, _, stages, _, names, _⟩ := tears
  obtain ⟨rfl, _, _⟩ := EngineCall.stage.inj stages
  exact unnamed names

private theorem whole_moved {before after : MemStorage capacity} {call : EngineCall len} {plan : List Fault} {decided output}
    (moves : transition call = some decided) : ¬ Tears signer ⟨before, ⟨call, plan⟩, output, after⟩ := by
  intro tears
  obtain ⟨_, _, _, stages, _⟩ := tears
  cases stages
  cases moves

/-- Slot 1 under test is whole, though the power has gone off in a write to slot 0. -/
theorem named_image_verified_slot1 :
    ∃ (storage : MemStorage 16) (past : List (EngineStep 16 32)),
      (engine ((DemoSigner.mk 0xCAFE).scheme 32) 16).Reaches (MemStorage.new 16) past storage ∧
      storage.image 0 = [4, 0, 0, 0, 0, 0, 0, 0, 0, 0, 0, 0, 0, 0, 0, 0] ∧ storage.state = .testing 1 0 ∧
      Verified ((DemoSigner.mk 0xCAFE).scheme 32) past 1 (storage.image 1) := by
  have staged : (engine ((DemoSigner.mk 0xCAFE).scheme 32) 16).step (MemStorage.new 16)
      ⟨stageSigned ⟨0xCAFE⟩ 32 ⟨1, 3⟩ [1, 2, 3], []⟩ = some (some (.ok .done), _) :=
    stageSigned_performs ⟨0xCAFE⟩ ⟨1, 3⟩ rfl (by decide) rfl
  have tested := Machine.Reaches.call (.call .start staged)
    (moves_perform _ _ transition_promote rfl)
  have reached := tested.call (stageSigned_cut ⟨0xCAFE⟩ ⟨0, 3⟩ 1 (show [4, 5, 6].length = 3 from rfl) (by decide) rfl)
  refine ⟨_, _, reached, by decide, rfl, named_image_verified rfl reached ?_ (.inr ⟨_, rfl⟩)⟩
  refine List.forall_mem_cons.mpr ⟨whole_unnamed ?_, List.forall_mem_cons.mpr ⟨whole_moved rfl, ?_⟩⟩
  · intro names
    rcases names with pending | ⟨_, testing⟩
    · cases pending
    · cases testing
  · exact List.forall_mem_singleton.mpr (whole_unnamed (settled_names_nothing 0))

/-- The power goes off in a write to slot 1 while slot 1 is the candidate. The
journal still names it, and the next recovery would boot it. -/
theorem named_image_torn :
    ¬ ∀ (capacity len : Nat) (signer : SignatureScheme len) (start storage : MemStorage capacity)
        (past : List (EngineStep capacity len)), start.state = .activeSlot0 →
        (engine signer capacity).Reaches start past storage → ∀ slot, Names storage.state slot →
          Verified signer past slot (storage.image slot) := by
  intro claimed
  have staged : (engine ((DemoSigner.mk 0xCAFE).scheme 32) 16).step (MemStorage.new 16)
      ⟨stageSigned ⟨0xCAFE⟩ 32 ⟨1, 3⟩ [1, 2, 3], []⟩ = some (some (.ok .done), _) :=
    stageSigned_performs ⟨0xCAFE⟩ ⟨1, 3⟩ rfl (by decide) rfl
  have reached := Machine.Reaches.call (.call .start staged)
    (stageSigned_cut ⟨0xCAFE⟩ ⟨1, 3⟩ 1 (show [4, 5, 6].length = 3 from rfl) (by decide) rfl)
  obtain ⟨step, member, package, payload, signature, stages, _, _, _, front⟩ := claimed 16 32 _ _ _ _ rfl reached 1 (.inl rfl)
  rcases List.mem_cons.mp member with rfl | member
  · obtain ⟨_, rfl, _⟩ := EngineCall.stage.inj stages
    exact absurd front (by decide)
  · cases List.mem_singleton.mp member
    obtain ⟨_, rfl, _⟩ := EngineCall.stage.inj stages
    exact absurd front (by decide)

end TptChassis.Proofs.OtaVerified

import TptChassis.Proofs.OtaEffects

/-! The journal as an automaton. Behind every journal state stands the slot the
engine would fall back to; only `commit` and `stage` change which one that is. -/

namespace TptChassis.Proofs.OtaJournal
open Ota OtaEffects

variable {capacity len : Nat}

/-- The journal states whose fallback is the given slot. -/
inductive Fallback (slot : UInt8) : SlotState → Prop where
  | settled : Fallback slot (.settled slot)
  | pending : Fallback slot (.pending (1 - slot))
  | testing : Fallback slot (.testing (1 - slot) slot)

theorem slot_cases {slot : UInt8} (named : slot.toNat < 2) : slot = 0 ∨ slot = 1 := by
  have every : ∀ n : Fin 2, UInt8.ofNat n = 0 ∨ UInt8.ofNat n = 1 := by decide
  simpa using every ⟨slot.toNat, named⟩

theorem other_cases {slot other : UInt8} (named : slot.toNat < 2) (second : other.toNat < 2)
    (different : other ≠ slot) : other = 1 - slot := by
  rcases slot_cases named with rfl | rfl <;> rcases slot_cases second with rfl | rfl
  · exact absurd rfl different
  · rfl
  · rfl
  · exact absurd rfl different

theorem other_named {slot : UInt8} (named : slot.toNat < 2) : (1 - slot).toNat < 2 := by
  rcases slot_cases named with rfl | rfl <;> decide

theorem other_other {slot : UInt8} (named : slot.toNat < 2) : 1 - (1 - slot) = slot := by
  rcases slot_cases named with rfl | rfl <;> rfl

theorem settled_slot {slot : UInt8} (named : slot.toNat < 2) : (if slot = 0 then 0 else 1) = slot := by
  rcases slot_cases named with rfl | rfl <;> rfl

theorem promotion_other {slot : UInt8} (named : slot.toNat < 2) :
    promotion (1 - slot) = .ok (1 - slot, .testing (1 - slot) slot) := by
  rcases slot_cases named with rfl | rfl <;> rfl

theorem settled_untested {slot active fallback : UInt8} : SlotState.settled slot ≠ .testing active fallback := by
  unfold SlotState.settled
  intro same
  split at same
  · cases same
  · cases same

theorem settled_not_pending {slot candidate : UInt8} : SlotState.settled slot ≠ .pending candidate := by
  unfold SlotState.settled
  intro same
  split at same
  · cases same
  · cases same

theorem Fallback.advance {slot : UInt8} {state next : SlotState}
    (moved : next = .settled slot ∨ (state = .pending (1 - slot) ∧ next = .testing (1 - slot) slot)) :
    Fallback slot next := by
  rcases moved with rfl | ⟨_, rfl⟩
  · exact .settled
  · exact .testing

theorem Fallback.untested {slot : UInt8} {state : SlotState} (held : Fallback slot state) (named : slot.toNat < 2)
    (untested : ∀ active fallback, state ≠ .testing active fallback) : state.activeSlot = some slot := by
  cases held with
  | settled => rw [settled_activeSlot, settled_slot named]
  | pending => rcases slot_cases named with rfl | rfl <;> rfl
  | testing => exact absurd rfl (untested _ _)

theorem Fallback.activeSlot {slot : UInt8} {state : SlotState} (held : Fallback slot state) (named : slot.toNat < 2) :
    ∃ active, state.activeSlot = some active ∧ (active = slot ∨ active = 1 - slot) := by
  cases held with
  | settled => exact ⟨slot, Fallback.settled.untested named (fun _ _ => settled_untested), .inl rfl⟩
  | pending => exact ⟨slot, Fallback.pending.untested named nofun, .inl rfl⟩
  | testing => exact ⟨1 - slot, rfl, .inr rfl⟩

theorem Fallback.candidate {candidate : UInt8} (named : candidate.toNat < 2) :
    Fallback (1 - candidate) (.pending candidate) := by
  have held : Fallback (1 - candidate) (.pending (1 - (1 - candidate))) := .pending
  rwa [other_other named] at held

theorem recovered_settled {slot : UInt8} (named : slot.toNat < 2) :
    recovered (.settled slot) = .ok (slot, .settled slot) := by
  rcases slot_cases named with rfl | rfl <;> rfl

theorem recovered_testing {slot : UInt8} (named : slot.toNat < 2) (active : UInt8) :
    recovered (.testing active slot) = .ok (slot, .settled slot) := by
  rw [recovered, settled_slot named]

theorem promoted_settled (slot : UInt8) : promoted (.settled slot) = .error (.error .noCandidate) := by
  unfold SlotState.settled
  split <;> rfl

theorem committed_settled (slot : UInt8) : committed (.settled slot) = .error (.error .invalidState) := by
  unfold SlotState.settled
  split <;> rfl

theorem rolledBack_settled (slot : UInt8) : rolledBack (.settled slot) = .error (.error .invalidState) := by
  unfold SlotState.settled
  split <;> rfl

/-- The methods that move the journal keep its fallback, except for a commit,
which makes the slot under test the new one. Without a pending candidate the
others only end a test. -/
theorem Fallback.moves {slot answered : UInt8} {state next : SlotState} {call : EngineCall len} {decided}
    (held : Fallback slot state) (named : slot.toNat < 2) (moves : transition call = some decided)
    (decision : decided state = .ok (answered, next)) :
    (call = .commit ∧ state = .testing (1 - slot) slot ∧ answered = 1 - slot ∧ next = .settled (1 - slot)) ∨
    (call ≠ .commit ∧
      (next = .settled slot ∨ (state = .pending (1 - slot) ∧ next = .testing (1 - slot) slot))) := by
  cases call with
  | state => cases moves
  | stage => cases moves
  | recover =>
    cases moves
    refine .inr ⟨?_, ?_⟩
    · intro commit
      cases commit
    cases held with
    | settled =>
      rw [recovered_settled named] at decision
      cases decision
      exact .inl rfl
    | pending =>
      rw [recovered, promotion_other named] at decision
      cases decision
      exact .inr ⟨rfl, rfl⟩
    | testing =>
      rw [recovered_testing named] at decision
      cases decision
      exact .inl rfl
  | promote =>
    cases moves
    refine .inr ⟨?_, ?_⟩
    · intro commit
      cases commit
    cases held with
    | settled =>
      rw [promoted_settled] at decision
      cases decision
    | pending =>
      rw [promoted, promotion_other named] at decision
      cases decision
      exact .inr ⟨rfl, rfl⟩
    | testing => cases decision
  | commit =>
    cases moves
    cases held with
    | settled =>
      rw [committed_settled] at decision
      cases decision
    | pending => cases decision
    | testing =>
      cases decision
      exact .inl ⟨rfl, rfl, rfl, rfl⟩
  | rollback =>
    cases moves
    refine .inr ⟨?_, ?_⟩
    · intro commit
      cases commit
    cases held with
    | settled =>
      rw [rolledBack_settled] at decision
      cases decision
    | pending => cases decision
    | testing =>
      cases decision
      exact .inl rfl

theorem Fallback.recovers {slot : UInt8} {state : SlotState} (held : Fallback slot state) (named : slot.toNat < 2) :
    ∃ answered next, recovered state = .ok (answered, next) := by
  cases held with
  | settled => exact ⟨_, _, recovered_settled named⟩
  | pending => exact ⟨_, _, promotion_other named⟩
  | testing => exact ⟨_, _, recovered_testing named _⟩

end TptChassis.Proofs.OtaJournal

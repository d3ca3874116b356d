import TptChassis.OtaZephyr
import TptChassis.Proofs.AglJournal

/-! The slot methods of the two ports compare the end of an access with the capacity.
The end is a sum of sizes, and for a large offset the sum overflows before it is
compared. -/

namespace TptChassis.Proofs.SlotBounds
open Ota AglFiles AglJournal Slices Words

variable {σ : Type} {target : Target} {capacity : Nat}

/-- An access that succeeds when it fits, and is otherwise refused and changes nothing. -/
structure Guarded (outcome : Checked (Except OtaError Unit × σ)) (before : σ) (fits : Prop) : Prop where
  accepts : fits → ∃ after, outcome = some (.ok (), after)
  refuses : ¬ fits → ∃ error, outcome = some (.error error, before)

/-- What the methods have in common: a slot that is not there is refused before the
end of the access is computed, and the end is computed before it is compared. -/
structure Accesses (target : Target) (outcome : Checked (Except OtaError Unit × σ)) (before : σ) (present : Prop)
    (last capacity : Nat) : Prop where
  absent : ¬ present → ∃ error, outcome = some (.error error, before)
  overflows : present → target.sizes ≤ last → outcome = none
  within : present → last < target.sizes → last ≤ capacity → ∃ after, outcome = some (.ok (), after)
  beyond : present → last < target.sizes → capacity < last → ∃ error, outcome = some (.error error, before)

theorem Accesses.guarded_iff {outcome : Checked (Except OtaError Unit × σ)} {before : σ} {present : Prop} {last : Nat}
    (accesses : Accesses target outcome before present last capacity) :
    Guarded outcome before (present ∧ last ≤ capacity) ↔ (present → last < target.sizes) := by
  constructor
  · intro guarded there
    by_contra large
    have panics := accesses.overflows there (Nat.not_lt.mp large)
    -- Neither a success nor a refusal is a panic.
    by_cases fits : present ∧ last ≤ capacity
    · obtain ⟨after, accepted⟩ := guarded.accepts fits
      cases panics.symm.trans accepted
    · obtain ⟨error, refused⟩ := guarded.refuses fits
      cases panics.symm.trans refused
  · intro small
    constructor
    · intro fits
      exact accesses.within fits.1 (small fits.1) fits.2
    · intro misfit
      by_cases there : present
      · exact accesses.beyond there (small there) (Nat.not_le.mp fun fits => misfit ⟨there, fits⟩)
      · exact accesses.absent there

section
variable (target) (storage : ZephyrOtaStorage) (slot : UInt8) (offset : Nat)

private theorem slot_missing (beyond : ¬ slot.toNat ≤ 1) : storage.slots.elements[slot.toNat]? = none := by
  apply List.getElem?_eq_none
  rw [storage.slots.sized]
  exact Nat.not_le.mp beyond

private theorem slot_present (named : slot.toNat ≤ 1) :
    ∃ s : Buffer UInt8 ramSlotCap, storage.slots.elements[slot.toNat]? = some s :=
  ⟨_, storage.slots.get?_eq ⟨slot.toNat, Nat.lt_succ_of_le named⟩⟩

theorem writeSlot_accesses (data : List UInt8) :
    Accesses target (storage.writeSlot target slot offset data) storage (slot.toNat ≤ 1) (offset + data.length) ramSlotCap := by
  constructor
  · intro beyond
    refine ⟨.storage, ?_⟩
    simp only [ZephyrOtaStorage.writeSlot, slot_missing storage slot beyond]
  · intro named large
    obtain ⟨s, held⟩ := slot_present storage slot named
    simp only [ZephyrOtaStorage.writeSlot, held, Target.add_overflow large]
    rfl
  · intro named small fits
    obtain ⟨s, held⟩ := slot_present storage slot named
    obtain ⟨copied, copies, _⟩ := s.copy_eq fits
    exact ⟨_, ZephyrOtaStorage.writeSlot_copies held (Target.add_eq small) fits copies⟩
  · intro named small large
    obtain ⟨s, held⟩ := slot_present storage slot named
    refine ⟨.storage, ?_⟩
    simp only [ZephyrOtaStorage.writeSlot, held, Target.add_eq small, Option.bind_eq_bind, Option.bind_some, if_pos large]
    rfl

theorem readSlot_accesses (buf : List UInt8) :
    Accesses target (storage.readSlot target slot offset buf) buf (slot.toNat ≤ 1) (offset + buf.length) ramSlotCap := by
  constructor
  · intro beyond
    refine ⟨.storage, ?_⟩
    simp only [ZephyrOtaStorage.readSlot, slot_missing storage slot beyond]
  · intro named large
    obtain ⟨s, held⟩ := slot_present storage slot named
    simp only [ZephyrOtaStorage.readSlot, held, Target.add_overflow large]
    rfl
  · intro named small fits
    obtain ⟨s, held⟩ := slot_present storage slot named
    have sliced := slice_eq (Nat.le_add_right offset buf.length) (s.sized.symm ▸ fits)
    have copies : 0 + ((s.elements.drop offset).take (offset + buf.length - offset)).length ≤ buf.length := by
      rw [Nat.zero_add, Nat.add_sub_cancel_left]
      exact List.length_take_le _ _
    refine ⟨overwrite buf 0 ((s.elements.drop offset).take (offset + buf.length - offset)), ?_⟩
    simp only [ZephyrOtaStorage.readSlot, held, Target.add_eq small, sliced, store_eq copies, Option.bind_eq_bind,
      Option.bind_some, if_neg (Nat.not_lt.mpr fits)]
    rfl
  · intro named small large
    obtain ⟨s, held⟩ := slot_present storage slot named
    refine ⟨.storage, ?_⟩
    simp only [ZephyrOtaStorage.readSlot, held, Target.add_eq small, Option.bind_eq_bind, Option.bind_some, if_pos large]
    rfl

end

theorem aglWriteSlot_accesses (target : Target) (directory : Directory) (slot : UInt8) (offset : Nat) (data : List UInt8) :
    Accesses target ((AglOtaStorage.backend target capacity).perform (.writeSlot slot offset data) directory) directory
      (Writable capacity directory slot) (offset + data.length) capacity := by
  constructor
  · intro unwritable
    obtain ⟨contents, held, torn⟩ := torn_of_not_writable unwritable
    exact ⟨.storage, writeSlot_refuses target offset data held torn⟩
  · intro writable large
    obtain ⟨buf, image⟩ := writable.imageOf
    have ran := writeSlot_patches target image offset data
    simp only [patch, Target.add_overflow large] at ran
    simp only [AglOtaStorage.backend, Device.serve, ran]
    rfl
  · intro writable small fits
    obtain ⟨buf, image⟩ := writable.imageOf
    exact ⟨_, writeSlot_overwrites (Target.add_eq small) fits image⟩
  · intro writable small large
    obtain ⟨buf, image⟩ := writable.imageOf
    refine ⟨.storage, ?_⟩
    apply Device.serve_performs
    apply (writeSlot_patches target image offset data).trans
    simp only [patch, Target.add_eq small]
    apply (congrArg (fun patched : Agl Unit => Directory.device.run
      (patched.run.bind fun result => .pure (returned result)) [] directory) (if_pos large)).trans
    rfl

/-- The bounds checks hold exactly when the slot is refused anyway or the end of the
access is a size. Over the RAM slots a slot is refused unless it is 0 or 1, in the
directory when its file is too short to be read. -/
theorem slot_bounds_iff (target : Target) (slot : UInt8) (offset : Nat) :
    (∀ (storage : ZephyrOtaStorage) (data : List UInt8),
      Guarded (storage.writeSlot target slot offset data) storage
        (slot.toNat ≤ 1 ∧ offset + data.length ≤ ramSlotCap) ↔
      (slot.toNat ≤ 1 → offset + data.length < target.sizes)) ∧
    (∀ (storage : ZephyrOtaStorage) (buf : List UInt8),
      Guarded (storage.readSlot target slot offset buf) buf
        (slot.toNat ≤ 1 ∧ offset + buf.length ≤ ramSlotCap) ↔
      (slot.toNat ≤ 1 → offset + buf.length < target.sizes)) ∧
    ∀ (capacity : Nat) (directory : Directory) (data : List UInt8),
      Guarded ((AglOtaStorage.backend target capacity).perform (.writeSlot slot offset data) directory) directory
        (Writable capacity directory slot ∧ offset + data.length ≤ capacity) ↔
      (Writable capacity directory slot → offset + data.length < target.sizes) := by
  refine ⟨?_, ?_, ?_⟩
  · intro storage data
    exact (writeSlot_accesses target storage slot offset data).guarded_iff
  · intro storage buf
    exact (readSlot_accesses target storage slot offset buf).guarded_iff
  · intro capacity directory data
    exact (aglWriteSlot_accesses target directory slot offset data).guarded_iff

/-- One byte at the largest offset is neither accepted nor refused. -/
theorem largest_offset_panics :
    ¬ ∀ (storage : ZephyrOtaStorage) (slot : UInt8) (offset : Nat) (data : List UInt8), offset < linux64.sizes →
      Guarded (storage.writeSlot linux64 slot offset data) storage (slot.toNat ≤ 1 ∧ offset + data.length ≤ ramSlotCap) := by
  intro claimed
  have guarded := claimed .new 0 (UInt64.size - 1) [0] (by decide)
  have small := (writeSlot_accesses linux64 .new 0 (UInt64.size - 1) [0]).guarded_iff.mp guarded (by decide)
  exact Nat.lt_irrefl _ small

end TptChassis.Proofs.SlotBounds

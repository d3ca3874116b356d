import TptChassis.Proofs.AglFiles

/-! The slots of the AGL storage as byte arrays. Writes go where they should, at
every offset; reads always start at the first byte. -/

namespace TptChassis.Proofs.AglSlots
open Ota AglFiles Slices Words

variable {target : Target} {capacity : Nat}

abbrev Memory := UInt8 → Nat → UInt8

structure Write where
  slot : UInt8
  offset : Nat
  data : List UInt8
deriving DecidableEq

def Write.Covers (write : Write) (slot : UInt8) (position : Nat) : Prop :=
  write.slot = slot ∧ write.offset ≤ position ∧ position < write.offset + write.data.length

instance (write : Write) (slot : UInt8) (position : Nat) : Decidable (write.Covers slot position) :=
  inferInstanceAs (Decidable (_ ∧ _))

/-- What a slot write is for: the bytes it covers are the ones written. -/
def Write.apply (memory : Memory) (write : Write) : Memory := fun slot position =>
  if write.Covers slot position then (write.data[position - write.offset]?).getD 0 else memory slot position

/-- The byte last written to each position, and zero where there is none. -/
def lastWritten (writes : List Write) : Memory := writes.foldl Write.apply fun _ _ => 0

def window (memory : Memory) (slot : UInt8) (offset length : Nat) : List UInt8 :=
  (List.range length).map fun index => memory slot (offset + index)

theorem length_window (memory : Memory) (slot : UInt8) (offset length : Nat) :
    (window memory slot offset length).length = length := by
  rw [window, List.length_map, List.length_range]

theorem getElem?_window (memory : Memory) (slot : UInt8) {offset length index : Nat} (inside : index < length) :
    (window memory slot offset length)[index]? = some (memory slot (offset + index)) := by
  rw [window, List.getElem?_map, List.getElem?_range inside]
  rfl

theorem window_eq_iff (memory : Memory) (slot : UInt8) (offset other length : Nat) :
    window memory slot offset length = window memory slot other length ↔
      ∀ index < length, memory slot (offset + index) = memory slot (other + index) := by
  constructor
  · intro same index inside
    have bytes := congrArg (fun bytes => bytes[index]?) same
    simp only [getElem?_window memory slot inside, Option.some_inj] at bytes
    exact bytes
  · intro same
    apply List.map_congr_left
    intro index member
    exact same index (List.mem_range.mp member)

def slotWriter (target : Target) (capacity : Nat) : Machine Directory Write (Except OtaError Unit) where
  step directory write :=
    (AglOtaStorage.backend target capacity).perform (.writeSlot write.slot write.offset write.data) directory

/-- The files hold these bytes. A slot without a file is all zeros. -/
def Holds (capacity : Nat) (directory : Directory) (memory : Memory) : Prop :=
  ∀ slot, (directory (.slot slot) = none ∧ ∀ position, memory slot position = 0) ∨
    directory (.slot slot) = some (window memory slot 0 capacity)

theorem empty_holds (capacity : Nat) : Holds capacity .empty fun _ _ => 0 := fun _ => .inl ⟨rfl, fun _ => rfl⟩

private theorem window_zero (memory : Memory) {slot : UInt8} (zero : ∀ position, memory slot position = 0) (length : Nat) :
    window memory slot 0 length = List.replicate length 0 := by
  apply List.eq_replicate_iff.mpr
  refine ⟨length_window memory slot 0 length, ?_⟩
  intro byte member
  obtain ⟨index, _, rfl⟩ := List.mem_map.mp member
  exact zero _

theorem Holds.image {directory : Directory} {memory : Memory} (holds : Holds capacity directory memory) (slot : UInt8) :
    ∃ buf, imageOf capacity (directory (.slot slot)) = some buf ∧ buf.elements = window memory slot 0 capacity := by
  rcases holds slot with ⟨missing, zero⟩ | held
  · rw [missing]
    exact ⟨_, rfl, (window_zero memory zero capacity).symm⟩
  · rw [held]
    have length := length_window memory slot 0 capacity
    exact ⟨_, dif_pos (Nat.le_of_eq length.symm), List.take_of_length_le (Nat.le_of_eq length)⟩

theorem overwrite_window (memory : Memory) (write : Write) (fits : write.offset + write.data.length ≤ capacity) :
    overwrite (window memory write.slot 0 capacity) write.offset write.data =
      window (write.apply memory) write.slot 0 capacity := by
  have length := length_window memory write.slot 0 capacity
  have room : write.offset + write.data.length ≤ (window memory write.slot 0 capacity).length := length.symm ▸ fits
  apply List.ext_getElem?
  intro position
  by_cases inside : position < capacity
  · rw [getElem?_overwrite room, getElem?_window _ _ inside, getElem?_window _ _ inside, Nat.zero_add, Write.apply]
    by_cases covered : write.offset ≤ position ∧ position < write.offset + write.data.length
    · have found : position - write.offset < write.data.length := by omega
      have covers : write.Covers write.slot position := ⟨rfl, covered⟩
      rw [if_pos covered, if_pos covers, List.getElem?_eq_getElem found, Option.getD_some]
    · have missed : ¬ write.Covers write.slot position := fun covers => covered covers.2
      rw [if_neg covered, if_neg missed]
  · rw [List.getElem?_eq_none (by rw [length_overwrite room, length]; omega),
      List.getElem?_eq_none (by rw [length_window]; omega)]

theorem write_holds {directory : Directory} {memory : Memory} (word : capacity < target.sizes)
    (holds : Holds capacity directory memory) (write : Write) (fits : write.offset + write.data.length ≤ capacity) :
    ∃ after, (slotWriter target capacity).step directory write = some (.ok (), after) ∧
      Holds capacity after (write.apply memory) := by
  obtain ⟨buf, image, elements⟩ := holds.image write.slot
  have sum : target.add write.offset write.data.length = some (write.offset + write.data.length) :=
    Target.add_eq (Nat.lt_of_le_of_lt fits word)
  refine ⟨_, writeSlot_overwrites sum fits image, ?_⟩
  intro slot
  by_cases same : slot = write.slot
  · subst same
    right
    rw [put_self, elements, overwrite_window memory write fits]
  · have elsewhere : AglPath.slot slot ≠ .slot write.slot := by
      intro equal
      cases equal
      exact same rfl
    have kept : (write.apply memory) slot = memory slot := by
      funext position
      exact if_neg fun covers => same covers.1.symm
    rw [put_other directory _ elsewhere, kept, window, kept]
    exact holds slot

theorem writes_hold {directory : Directory} {memory : Memory} (word : capacity < target.sizes)
    (holds : Holds capacity directory memory) {writes : List Write}
    (fit : ∀ write ∈ writes, write.offset + write.data.length ≤ capacity) :
    ∃ after, (slotWriter target capacity).run directory writes = some (List.replicate writes.length (.ok ()), after) ∧
      Holds capacity after (writes.foldl Write.apply memory) := by
  induction writes generalizing directory memory with
  | nil => exact ⟨directory, rfl, holds⟩
  | cons write writes ih =>
    obtain ⟨first, others⟩ := List.forall_mem_cons.mp fit
    obtain ⟨next, written, kept⟩ := write_holds word holds write first
    obtain ⟨after, ran, kept⟩ := ih kept others
    refine ⟨after, ?_, kept⟩
    rw [Machine.run_cons writes written, ran]
    rfl

def ReadsFrom (directory : Directory) (memory : Memory) (slot : UInt8) (offset length : Nat) : Prop :=
  ∃ buf, Directory.device.run (AglOtaStorage.readSlot slot offset length) [] directory = (some (.ok buf), directory) ∧
    buf.elements = window memory slot offset length

theorem readSlot_front {directory : Directory} {memory : Memory} (holds : Holds capacity directory memory) (slot : UInt8)
    (offset : Nat) {length : Nat} (inside : length ≤ capacity) :
    ∃ buf, Directory.device.run (AglOtaStorage.readSlot slot offset length) [] directory = (some (.ok buf), directory) ∧
      buf.elements = window memory slot 0 length := by
  rcases holds slot with ⟨missing, zero⟩ | held
  · exact ⟨_, readSlot_unwritten missing offset length, (window_zero memory zero length).symm⟩
  · have enough : length ≤ (window memory slot 0 capacity).length := (length_window memory slot 0 capacity).symm ▸ inside
    refine ⟨_, readSlot_written held offset enough, ?_⟩
    change (window memory slot 0 capacity).take length = _
    rw [window, ← List.map_take, List.take_range, Nat.min_eq_left inside]
    rfl

theorem readsFrom_iff {directory : Directory} {memory : Memory} (holds : Holds capacity directory memory) (slot : UInt8)
    {offset length : Nat} (inside : offset + length ≤ capacity) :
    ReadsFrom directory memory slot offset length ↔ ∀ index < length, memory slot index = memory slot (offset + index) := by
  obtain ⟨front, ran, elements⟩ := readSlot_front holds slot offset (show length ≤ capacity by omega)
  have same := window_eq_iff memory slot 0 offset length
  simp only [Nat.zero_add] at same
  rw [← same]
  constructor
  · intro given
    obtain ⟨buf, ran', bytes⟩ := given
    cases ran.symm.trans ran'
    exact elements.symm.trans bytes
  · intro equal
    exact ⟨front, ran, elements.trans equal⟩

/-- After any writes that fit, a read gives the bytes last written exactly when
they are the same as those at the front of the slot. -/
theorem slots_read_iff (word : capacity < target.sizes) {writes : List Write}
    (fit : ∀ write ∈ writes, write.offset + write.data.length ≤ capacity) :
    ∃ directory, (slotWriter target capacity).run .empty writes =
        some (List.replicate writes.length (.ok ()), directory) ∧
      ∀ slot offset length, offset + length ≤ capacity →
        (ReadsFrom directory (lastWritten writes) slot offset length ↔
          ∀ index < length, lastWritten writes slot index = lastWritten writes slot (offset + index)) := by
  obtain ⟨directory, ran, holds⟩ := writes_hold word (empty_holds capacity) fit
  exact ⟨directory, ran, fun slot offset length inside => readsFrom_iff holds slot inside⟩

theorem slots_read_front :
    ∃ directory, (slotWriter linux64 8).run .empty [⟨0, 0, [1, 2, 3, 4]⟩, ⟨0, 2, [7, 8, 9]⟩] =
        some ([.ok (), .ok ()], directory) ∧
      ReadsFrom directory (lastWritten [⟨0, 0, [1, 2, 3, 4]⟩, ⟨0, 2, [7, 8, 9]⟩]) 0 0 6 := by
  obtain ⟨directory, ran, reads⟩ :=
    @slots_read_iff linux64 8 (by decide) [⟨0, 0, [1, 2, 3, 4]⟩, ⟨0, 2, [7, 8, 9]⟩] (by decide)
  refine ⟨directory, ran, (reads 0 0 6 (by omega)).mpr ?_⟩
  intro index _
  rw [Nat.zero_add]

/-- The second byte of a slot is read as the first one. -/
theorem slots_read_shifted :
    ¬ ∀ (target : Target) (capacity : Nat) (writes : List Write), capacity < target.sizes →
      (∀ write ∈ writes, write.offset + write.data.length ≤ capacity ∧ write.slot.toNat < 2) →
      ∀ outputs directory, (slotWriter target capacity).run .empty writes = some (outputs, directory) →
      ∀ slot offset length, slot.toNat < 2 → offset + length ≤ capacity →
        ReadsFrom directory (lastWritten writes) slot offset length := by
  intro claimed
  have word : 2 < linux64.sizes := by decide
  obtain ⟨directory, ran, holds⟩ := @writes_hold linux64 2 _ _ word (empty_holds 2) [⟨0, 0, [1, 2]⟩] (by decide)
  have reads := claimed linux64 2 _ word (by decide) _ _ ran 0 1 1 (by decide) (by omega)
  have same := (readsFrom_iff holds 0 (show 1 + 1 ≤ 2 by omega)).mp reads 0 (by omega)
  exact absurd same (by decide)

end TptChassis.Proofs.AglSlots

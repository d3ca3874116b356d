import TptChassis.Bus
import TptChassis.Library.OnesComplement

/-! The checksum of a LIN frame is the complement of the ones' complement sum of
its bytes. The identifier in front of them is protected by two parity bits. -/

namespace TptChassis.Proofs.LinChecksum
open Bus Slices

def digits (bytes : List UInt8) : List Nat := bytes.map UInt8.toNat

theorem digits_bounded (bytes : List UInt8) : ∀ item ∈ digits bytes, item < 256 := by
  intro item member
  obtain ⟨byte, _, rfl⟩ := List.mem_map.mp member
  exact byte.toNat_lt

def carrySum (bytes : List UInt8) : Nat := OnesComplement.sum 256 (digits bytes)

theorem carrySum_lt (bytes : List UInt8) : carrySum bytes < 256 :=
  OnesComplement.sum_lt (by omega) (digits_bounded bytes)

theorem payload_new {id : LinId} {bytes : List UInt8} {frame : LinFrame} (built : LinFrame.new id bytes = some (some frame)) :
    frame.payload = some bytes := by
  unfold LinFrame.new at built
  split at built
  next => cases built
  next short =>
    have fits : 0 + bytes.length ≤ linMaxDlc := by omega
    obtain ⟨copied, copies, elements⟩ := (Buffer.fill linMaxDlc 0).copy_eq fits
    rw [copies] at built
    cases built
    have length : (UInt8.ofNat bytes.length).toNat = bytes.length :=
      UInt8.toNat_ofNat_of_lt (Nat.lt_of_le_of_lt (Nat.not_lt.mp short) (by decide))
    have held : bytes.length ≤ copied.elements.length := by
      rw [copied.sized]
      omega
    rw [LinFrame.payload, length, slice_front held, elements, take_overwrite_zero]

/-- Taking 255 off a sum beyond it is bringing the carry around. -/
theorem addByte_adds {sum : UInt16} (bounded : sum.toNat < 256) (b : UInt8) :
    ∃ next, LinFrame.addByte sum b = some next ∧ next.toNat = OnesComplement.add 256 sum.toNat b.toNat := by
  have byte := b.toNat_lt
  have room : sum.toNat + b.toNat < UInt16.size := by
    rw [UInt16.size]
    omega
  have added : (sum + b.toUInt16).toNat = sum.toNat + b.toNat := by
    rw [UInt16.toNat_add, UInt8.toNat_toUInt16]
    omega
  refine ⟨_, if_pos room, ?_⟩
  by_cases exceeds : sum + b.toUInt16 > 0xFF
  · have beyond := UInt16.lt_iff_toNat_lt.mp exceeds
    rw [added] at beyond
    simp only [UInt16.reduceToNat] at beyond
    rw [if_pos exceeds, UInt16.toNat_sub_of_le _ _ (UInt16.le_of_lt exceeds), added,
      OnesComplement.add_carry (by omega) (by omega)]
    rfl
  · have within := Nat.not_lt.mp fun beyond => exceeds (UInt16.lt_iff_toNat_lt.mpr beyond)
    rw [added] at within
    simp only [UInt16.reduceToNat] at within
    rw [if_neg exceeds, added, OnesComplement.add_small (by omega)]

theorem foldlM_adds (bytes : List UInt8) {sum : UInt16} (bounded : sum.toNat < 256) :
    ∃ last, bytes.foldlM LinFrame.addByte sum = some last ∧
      last.toNat = (digits bytes).foldl (OnesComplement.add 256) sum.toNat := by
  induction bytes generalizing sum with
  | nil => exact ⟨sum, rfl, rfl⟩
  | cons b bytes ih =>
    obtain ⟨next, added, value⟩ := addByte_adds bounded b
    have small : next.toNat < 256 := by
      rw [value]
      exact OnesComplement.add_lt bounded b.toNat_lt
    obtain ⟨last, folded, total⟩ := ih small
    refine ⟨last, ?_, ?_⟩
    · rw [List.foldlM_cons, added]
      exact folded
    · rw [total, value]
      rfl

theorem checksum_complement {frame : LinFrame} {bytes : List UInt8} (held : frame.payload = some bytes) :
    ∃ checksum, frame.checksum = some checksum ∧ checksum.toNat = 255 - carrySum bytes := by
  obtain ⟨last, folded, value⟩ := foldlM_adds bytes (show (0 : UInt16).toNat < 256 by decide)
  have small := carrySum_lt bytes
  change last.toNat = carrySum bytes at value
  refine ⟨~~~ last.toUInt8, ?_, ?_⟩
  · rw [LinFrame.checksum, held]
    simp only [Option.bind_eq_bind, Option.bind_some, folded]
    rfl
  · rw [UInt8.toNat_not, UInt16.toNat_toUInt8, value, Nat.mod_eq_of_lt small]
    rfl

theorem checksum_eq_iff {frame other : LinFrame} {bytes second : List UInt8} {checksum : UInt8}
    (held : frame.payload = some bytes) (held' : other.payload = some second) (computed : frame.checksum = some checksum) :
    other.checksum = some checksum ↔ carrySum second = carrySum bytes := by
  obtain ⟨first, same, value⟩ := checksum_complement held
  obtain ⟨last, computed', value'⟩ := checksum_complement held'
  cases same.symm.trans computed
  have small := carrySum_lt bytes
  have small' := carrySum_lt second
  rw [computed', Option.some_inj, ← UInt8.toNat_inj, value, value']
  omega

theorem carrySum_split (front back : List UInt8) (byte : UInt8) :
    carrySum (front ++ byte :: back) = OnesComplement.digit 256 ((digits (front ++ back)).sum + byte.toNat) := by
  rw [carrySum, OnesComplement.sum_digit (by omega) (digits_bounded _)]
  congr 1
  simp only [digits, List.map_append, List.map_cons, List.sum_append, List.sum_cons]
  omega

theorem sum_ne_zero_iff (bytes : List UInt8) : (digits bytes).sum ≠ 0 ↔ ∃ byte ∈ bytes, byte ≠ 0 := by
  rw [← Nat.pos_iff_ne_zero, List.sum_pos_iff_exists_pos_nat]
  constructor
  · intro given
    obtain ⟨item, member, positive⟩ := given
    obtain ⟨byte, inside, rfl⟩ := List.mem_map.mp member
    refine ⟨byte, inside, ?_⟩
    intro zero
    rw [zero] at positive
    exact Nat.lt_irrefl 0 positive
  · intro given
    obtain ⟨byte, inside, nonzero⟩ := given
    exact ⟨byte.toNat, List.mem_map_of_mem inside, Nat.pos_of_ne_zero fun zero => nonzero (UInt8.toNat_inj.mp zero)⟩

theorem carrySum_differs_iff (front back : List UInt8) {first second : UInt8} (different : first ≠ second) :
    carrySum (front ++ second :: back) = carrySum (front ++ first :: back) ↔
      ((first = 0 ∧ second = 0xFF) ∨ (first = 0xFF ∧ second = 0)) ∧ ∃ byte ∈ front ++ back, byte ≠ 0 := by
  have values : first.toNat ≠ second.toNat := fun same => different (UInt8.toNat_inj.mp same)
  rw [eq_comm, carrySum_split, carrySum_split,
    OnesComplement.digit_eq_iff _ first.toNat_lt second.toNat_lt values, sum_ne_zero_iff]
  simp only [← UInt8.toNat_inj, UInt8.reduceToNat]

/-- The checksum of a frame is the complement of the end-around-carry sum of its
bytes, whatever their order, and completes that sum to `0xFF`. In one place it
confuses only `0x00` and `0xFF`, and only beside a byte that is not zero. -/
theorem checksum_spec {id : LinId} {bytes : List UInt8} {frame : LinFrame}
    (built : LinFrame.new id bytes = some (some frame)) :
    ∃ checksum, frame.payload = some bytes ∧ frame.checksum = some checksum ∧
      checksum = ~~~ UInt8.ofNat (carrySum bytes) ∧
      carrySum (bytes ++ [checksum]) = 0xFF ∧
      (∀ id' second other, LinFrame.new id' second = some (some other) → second.Perm bytes →
        other.checksum = some checksum) ∧
      ∀ front back first second, bytes = front ++ first :: back → first ≠ second →
        ∀ id' other, LinFrame.new id' (front ++ second :: back) = some (some other) →
          (other.checksum = some checksum ↔
            ((first = 0 ∧ second = 0xFF) ∨ (first = 0xFF ∧ second = 0)) ∧ ∃ byte ∈ front ++ back, byte ≠ 0) := by
  have held := payload_new built
  obtain ⟨checksum, computed, value⟩ := checksum_complement held
  have small := carrySum_lt bytes
  refine ⟨checksum, held, computed, ?_, ?_, ?_, ?_⟩
  · rw [← UInt8.toNat_inj, value, UInt8.toNat_not, UInt8.toNat_ofNat_of_lt' small]
    rfl
  · have last : carrySum (bytes ++ [checksum]) = OnesComplement.add 256 (carrySum bytes) checksum.toNat := by
      rw [carrySum, digits, List.map_append, OnesComplement.sum, List.foldl_append]
      rfl
    rw [last, value]
    exact OnesComplement.add_complement small
  · intro id' second other built' permuted
    apply (checksum_eq_iff held (payload_new built') computed).mpr
    exact OnesComplement.sum_perm (by omega) (digits_bounded bytes) (permuted.map UInt8.toNat)
  · intro front back first second parts different id' other built'
    rw [checksum_eq_iff held (payload_new built') computed, parts]
    exact carrySum_differs_iff front back different

theorem checksum_spec_carry :
    ∃ frame : LinFrame, LinFrame.new ⟨0x12⟩ [0xF0, 0x20] = some (some frame) ∧ frame.checksum = some 0xEE ∧
      carrySum [0xF0, 0x20, 0xEE] = 0xFF := by
  have built : LinFrame.new ⟨0x12⟩ [0xF0, 0x20] =
      some (some ⟨⟨0x12⟩, ⟨[0xF0, 0x20, 0, 0, 0, 0, 0, 0], rfl⟩, 2⟩) := rfl
  obtain ⟨checksum, _, computed, _, completes, _⟩ := checksum_spec built
  have value : some checksum = some 0xEE := computed.symm.trans rfl
  cases value
  exact ⟨_, built, computed, completes⟩

end TptChassis.Proofs.LinChecksum

import TptChassis.Autosar
import TptChassis.Library.Fields

/-! A signal that `Signal::new` accepts is a bit field of the payload: `unpack`
reads it, `pack` writes it, and no shift is by the whole width. -/

namespace TptChassis.Proofs.SignalLens
open Autosar Slices

/-- The layouts that lie inside a payload. -/
structure Layout (startBit length : UInt8) : Prop where
  positive : 1 ≤ length.toNat
  inside : startBit.toNat + length.toNat ≤ 64

private theorem rejected_iff (startBit length : UInt8) :
    (length = 0 ∨ length > 64 ∨ startBit.toUInt32 + length.toUInt32 > 64) ↔ ¬ Layout startBit length := by
  have bounds := And.intro startBit.toNat_lt length.toNat_lt
  have sum : (startBit.toUInt32 + length.toUInt32).toNat = startBit.toNat + length.toNat := by
    rw [UInt32.toNat_add, UInt8.toNat_toUInt32, UInt8.toNat_toUInt32]
    omega
  rw [gt_iff_lt, gt_iff_lt, UInt8.lt_iff_toNat_lt, UInt32.lt_iff_toNat_lt, ← UInt8.toNat_inj, sum]
  constructor
  · intro rejected layout
    have positive := layout.positive
    have inside := layout.inside
    simp only [UInt8.reduceToNat, UInt32.reduceToNat] at rejected
    omega
  · intro misfit
    by_contra accepted
    apply misfit
    simp only [UInt8.reduceToNat, UInt32.reduceToNat] at accepted
    exact ⟨by omega, by omega⟩

theorem new_layout {startBit length : UInt8} (layout : Layout startBit length) :
    Signal.new startBit length = some ⟨startBit, length⟩ :=
  if_neg fun rejected => (rejected_iff startBit length).mp rejected layout

theorem new_refuses {startBit length : UInt8} (misfit : ¬ Layout startBit length) : Signal.new startBit length = none :=
  if_pos ((rejected_iff startBit length).mpr misfit)

theorem new_accepts {startBit length : UInt8} {signal : Signal} (accepted : Signal.new startBit length = some signal) :
    Layout startBit length ∧ signal = ⟨startBit, length⟩ := by
  by_cases layout : Layout startBit length
  · cases (new_layout layout).symm.trans accepted
    exact ⟨layout, rfl⟩
  · cases (new_refuses layout).symm.trans accepted

def Layout.field {startBit length : UInt8} (layout : Layout startBit length) : BitField 64 :=
  ⟨startBit.toNat, length.toNat, layout.inside⟩

private theorem shift_count {count : UInt8} (small : count.toNat < 64) :
    (count.toUInt64.toBitVec % 64#64).toNat = count.toNat := by
  rw [BitVec.toNat_umod, UInt64.toNat_toBitVec, UInt8.toNat_toUInt64]
  exact Nat.mod_eq_of_lt small

theorem shl_bits (word : UInt64) {count : UInt8} (small : count.toNat < 64) :
    shl word count = some (UInt64.ofBitVec (word.toBitVec <<< count.toNat)) := by
  rw [shl, if_pos (UInt8.lt_iff_toNat_lt.mpr small)]
  apply congrArg some
  apply UInt64.toBitVec_inj.mp
  rw [UInt64.toBitVec_shiftLeft, BitVec.shiftLeft_eq', ← shift_count small]
  rfl

theorem shr_bits (word : UInt64) {count : UInt8} (small : count.toNat < 64) :
    shr word count = some (UInt64.ofBitVec (word.toBitVec >>> count.toNat)) := by
  rw [shr, if_pos (UInt8.lt_iff_toNat_lt.mpr small)]
  apply congrArg some
  apply UInt64.toBitVec_inj.mp
  rw [UInt64.toBitVec_shiftRight, BitVec.ushiftRight_eq', ← shift_count small]
  rfl

variable {startBit length : UInt8}

/-- Only a signal of the whole width has no room for a shift by its length, and
it has no need of one. -/
theorem mask_bits (layout : Layout startBit length) :
    Signal.mask ⟨startBit, length⟩ = some (UInt64.ofBitVec layout.field.mask) := by
  have inside := layout.inside
  by_cases whole : length.toNat = 64
  · have every : length = 64 := UInt8.toNat_inj.mp whole
    subst every
    rfl
  · have narrow : length.toNat < 64 := by omega
    have shorter : ¬ length ≥ 64 := fun longer => Nat.not_le.mpr narrow (UInt8.le_iff_toNat_le.mp longer)
    have bit := shl_bits 1 narrow
    rw [Signal.mask, if_neg shorter, bit]
    apply congrArg some
    apply UInt64.toNat_inj.mp
    have positive : 1 ≤ Nat.pow 2 length.toNat := Nat.one_le_two_pow
    have bounded : Nat.pow 2 length.toNat < Nat.pow 2 64 := Nat.pow_lt_pow_right (Nat.lt_succ_self 1) narrow
    have shifted : (UInt64.ofBitVec (UInt64.toBitVec 1 <<< length.toNat)).toNat = Nat.pow 2 length.toNat := by
      rw [UInt64.toNat_ofBitVec, BitVec.toNat_shiftLeft, Nat.shiftLeft_eq]
      exact (congrArg (· % _) (Nat.one_mul _)).trans (Nat.mod_eq_of_lt bounded)
    have ones : (UInt64.ofBitVec layout.field.mask).toNat = Nat.pow 2 length.toNat - 1 := by
      rw [UInt64.toNat_ofBitVec, BitField.mask, BitVec.toNat_ofNat]
      exact Nat.mod_eq_of_lt (Nat.lt_of_le_of_lt (Nat.sub_le _ 1) bounded)
    rw [ones, UInt64.toNat_sub_of_le _ _ (UInt64.le_iff_toNat_le.mpr (shifted ▸ positive)), shifted]
    rfl

theorem unpack_reads (layout : Layout startBit length) (payload : UInt64) :
    Signal.unpack ⟨startBit, length⟩ payload = some (UInt64.ofBitVec (layout.field.read payload.toBitVec)) := by
  have positive := layout.positive
  have inside := layout.inside
  rw [Signal.unpack, mask_bits layout, shr_bits payload (show startBit.toNat < 64 by omega)]
  rfl

private theorem masked_iff (layout : Layout startBit length) (value : UInt64) :
    value &&& ~~~ (UInt64.ofBitVec layout.field.mask) = 0 ↔ layout.field.Fits value.toBitVec := by
  rw [← UInt64.toBitVec_inj]
  exact Iff.rfl

theorem pack_refuses (layout : Layout startBit length) (payload : UInt64) {value : UInt64}
    (large : ¬ layout.field.Fits value.toBitVec) : Signal.pack ⟨startBit, length⟩ payload value = some none := by
  rw [Signal.pack, mask_bits layout]
  exact if_pos fun clear => large ((masked_iff layout value).mp clear)

theorem pack_writes (layout : Layout startBit length) (payload : UInt64) {value : UInt64}
    (fits : layout.field.Fits value.toBitVec) :
    Signal.pack ⟨startBit, length⟩ payload value =
      some (some (UInt64.ofBitVec (layout.field.write payload.toBitVec value.toBitVec))) := by
  have positive := layout.positive
  have inside := layout.inside
  have small : startBit.toNat < 64 := by omega
  rw [Signal.pack, mask_bits layout]
  apply (if_neg (Classical.not_not.mpr ((masked_iff layout value).mpr fits))).trans
  rw [shl_bits _ small, shl_bits _ small]
  rfl

theorem pack_some (layout : Layout startBit length) {payload value packed : UInt64}
    (done : Signal.pack ⟨startBit, length⟩ payload value = some (some packed)) :
    layout.field.Fits value.toBitVec ∧ packed.toBitVec = layout.field.write payload.toBitVec value.toBitVec := by
  by_cases fits : layout.field.Fits value.toBitVec
  · cases (pack_writes layout payload fits).symm.trans done
    exact ⟨fits, rfl⟩
  · cases (pack_refuses layout payload fits).symm.trans done

def Covers (signal : Signal) (bit : Nat) : Prop :=
  signal.startBit.toNat ≤ bit ∧ bit < signal.startBit.toNat + signal.length.toNat

/-- The laws of a lens, and that nothing panics. -/
structure Lawful (signal : Signal) : Prop where
  refuses : ∀ payload value, ∃ result, signal.pack payload value = some result ∧
    (result = none ↔ Nat.pow 2 signal.length.toNat ≤ value.toNat)
  reads : ∀ payload value packed, signal.pack payload value = some (some packed) → signal.unpack packed = some value
  frames : ∀ payload value packed, signal.pack payload value = some (some packed) →
    ∀ bit, ¬ Covers signal bit → packed.toNat.testBit bit = payload.toNat.testBit bit
  restores : ∀ payload, ∃ value, signal.unpack payload = some value ∧ signal.pack payload value = some (some payload)

/-- Packing the first signal neither disturbs the second nor depends on it. -/
structure Independent (first second : Signal) : Prop where
  unseen : ∀ payload value packed, first.pack payload value = some (some packed) →
    second.unpack packed = second.unpack payload
  commutes : ∀ payload value other middle packed, first.pack payload value = some (some middle) →
    second.pack middle other = some (some packed) →
    ∃ between, second.pack payload other = some (some between) ∧ first.pack between value = some (some packed)

theorem layout_lawful (layout : Layout startBit length) : Lawful ⟨startBit, length⟩ where
  refuses payload value := by
    by_cases fits : layout.field.Fits value.toBitVec
    · refine ⟨_, pack_writes layout payload fits, ?_⟩
      have small := BitField.fits_iff.mp fits
      exact iff_of_false nofun (Nat.not_le.mpr small)
    · refine ⟨none, pack_refuses layout payload fits, ?_⟩
      have large := fun small => fits (BitField.fits_iff.mpr small)
      exact iff_of_true rfl (Nat.not_lt.mp large)
  reads payload value packed done := by
    obtain ⟨fits, written⟩ := pack_some layout done
    rw [unpack_reads layout, written, BitField.read_write fits]
  frames payload value packed done bit outside := by
    obtain ⟨fits, written⟩ := pack_some layout done
    have bits := BitField.getLsbD_write fits payload.toBitVec bit
    have beyond : ¬ layout.field.Covers bit := outside
    rw [if_neg beyond, ← written] at bits
    exact bits
  restores payload := by
    refine ⟨_, unpack_reads layout payload, ?_⟩
    apply (@pack_writes _ _ layout payload (.ofBitVec _) (layout.field.fits_read payload.toBitVec)).trans
    exact congrArg (fun word => some (some (UInt64.ofBitVec word))) (layout.field.write_read payload.toBitVec)

theorem apart_independent {startBit' length' : UInt8} (layout : Layout startBit length) (layout' : Layout startBit' length')
    (apart : layout.field.Apart layout'.field) : Independent ⟨startBit, length⟩ ⟨startBit', length'⟩ where
  unseen payload value packed done := by
    obtain ⟨fits, written⟩ := pack_some layout done
    rw [unpack_reads layout', unpack_reads layout', written, BitField.read_write_apart apart fits]
  commutes payload value other middle packed done done' := by
    obtain ⟨fits, written⟩ := pack_some layout done
    obtain ⟨fits', written'⟩ := pack_some layout' done'
    refine ⟨_, pack_writes layout' payload fits', ?_⟩
    rw [pack_writes layout _ fits]
    apply congrArg fun word => some (some word)
    apply UInt64.toBitVec_inj.mp
    rw [written', written, BitField.write_comm apart fits fits']

/-- Every signal that `Signal::new` accepts obeys the laws of a lens, and two
signals without a bit in common do not interfere. -/
theorem signal_lens {signal : Signal} (accepted : Signal.new startBit length = some signal) :
    Lawful signal ∧
      ∀ startBit' length' other, Signal.new startBit' length' = some other →
        (∀ bit, Covers signal bit → ¬ Covers other bit) → Independent signal other := by
  obtain ⟨layout, rfl⟩ := new_accepts accepted
  refine ⟨layout_lawful layout, ?_⟩
  intro startBit' length' other accepted' apart
  obtain ⟨layout', rfl⟩ := new_accepts accepted'
  exact apart_independent layout layout' apart

theorem signal_lens_shared :
    Lawful ⟨0, 12⟩ ∧ Signal.pack ⟨0, 12⟩ 0xFFFFFFFFFFFFFFFF 0xABC = some (some 0xFFFFFFFFFFFFFABC) ∧
      Independent ⟨0, 12⟩ ⟨12, 52⟩ := by
  obtain ⟨lawful, independent⟩ := signal_lens (show Signal.new 0 12 = some ⟨0, 12⟩ from rfl)
  refine ⟨lawful, rfl, independent 12 52 _ rfl ?_⟩
  intro bit first second
  exact Nat.not_lt.mpr second.1 first.2

end TptChassis.Proofs.SignalLens

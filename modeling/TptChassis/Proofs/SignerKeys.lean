import Mathlib.Data.Set.Card
import TptChassis.Ota

/-! The demo signer under two keys. Its keyed hash tells all keys apart, and the first
byte of a signature tells apart the keys that differ in their low byte. The bytes a
hash is spread over do not tell all hashes apart, and every message has two keys that
sign it alike, but four bytes of a signature leave few keys that could. -/

namespace TptChassis.Proofs.SignerKeys
open Ota Slices

/-- The hash of `DemoSigner::hash` before it is spread, from the value it starts with. -/
def absorb (start : UInt32) (data : List UInt8) : UInt32 :=
  data.foldl (fun h b => (h ^^^ b.toUInt32) * 0x01000193) start

def keyed (key : UInt32) (data : List UInt8) : UInt32 := absorb (0x811C9DC5 ^^^ key) data

/-- The state from which the rest of a signature is spread after one byte. -/
def advance (state : UInt32) : UInt32 := DemoSigner.rotateLeft8 state ^^^ ((state >>> 24) * 0x9E3779B9)

theorem hash_elements (key : UInt32) (len : Nat) (data : List UInt8) :
    ((DemoSigner.mk key).hash len data).elements = DemoSigner.spread len (keyed key data) :=
  rfl

/-- The signature that a signer makes is one that another signer accepts. -/
def Accepted (len : Nat) (signing checking : UInt32) (data : List UInt8) : Prop :=
  ((DemoSigner.mk checking).scheme len).verify data ((DemoSigner.mk signing).hash len data) = true

theorem accepted_iff {len : Nat} {signing checking : UInt32} {data : List UInt8} :
    Accepted len signing checking data ↔
      DemoSigner.spread len (keyed checking data) = DemoSigner.spread len (keyed signing data) := by
  rw [Accepted, DemoSigner.scheme, decide_eq_true_eq, Buffer.ext_iff, hash_elements, hash_elements]

theorem absorb_surjective (data : List UInt8) (h : UInt32) : ∃ start, absorb start data = h := by
  induction data with
  | nil => exact ⟨h, rfl⟩
  | cons b data ih =>
    obtain ⟨middle, reaches⟩ := ih
    refine ⟨(middle * 0x359C449B) ^^^ b.toUInt32, ?_⟩
    rw [← reaches, absorb, List.foldl_cons, UInt32.xor_assoc, UInt32.xor_self, UInt32.xor_zero, UInt32.mul_assoc]
    exact congrArg (absorb · data) (UInt32.mul_one middle)

theorem keyed_surjective (data : List UInt8) (h : UInt32) : ∃ key, keyed key data = h := by
  obtain ⟨start, reaches⟩ := absorb_surjective data h
  refine ⟨0x811C9DC5 ^^^ start, ?_⟩
  rw [keyed, ← UInt32.xor_assoc, UInt32.xor_self, UInt32.zero_xor, reaches]

/-- The low byte of the hash is the same hash of bytes alone. -/
theorem absorb_low {first second : UInt32} {data : List UInt8}
    (same : (absorb first data).toUInt8 = (absorb second data).toUInt8) : first.toUInt8 = second.toUInt8 := by
  induction data generalizing first second with
  | nil => exact same
  | cons b data ih =>
    have multiplied := congrArg (· * 0x9B) (ih same)
    simp only [UInt32.toUInt8_mul, UInt32.toUInt8_xor, UInt8.mul_assoc] at multiplied
    change (first.toUInt8 ^^^ _) * 1 = (second.toUInt8 ^^^ _) * 1 at multiplied
    rw [UInt8.mul_one, UInt8.mul_one] at multiplied
    exact (UInt8.xor_left_inj _).mp multiplied

theorem keyed_low {first second : UInt32} {data : List UInt8}
    (same : (keyed first data).toUInt8 = (keyed second data).toUInt8) : first.toUInt8 = second.toUInt8 := by
  have starts := absorb_low same
  simp only [UInt32.toUInt8_xor] at starts
  exact (UInt8.xor_right_inj _).mp starts

theorem toUInt8_low (h : UInt32) : (h &&& 0xFF).toUInt8 = h.toUInt8 := by
  rw [UInt32.toUInt8_and]
  exact UInt8.and_neg_one

/-- The first byte of a signature is the low byte of the hash. -/
theorem accepted_low {len : Nat} {signing checking : UInt32} {data : List UInt8}
    (accepted : Accepted (len + 1) signing checking data) : signing.toUInt8 = checking.toUInt8 := by
  have first := (List.cons.inj (accepted_iff.mp accepted)).1
  rw [toUInt8_low, toUInt8_low] at first
  exact keyed_low first.symm

theorem spread_meets {first second : UInt32} (low : first &&& 0xFF = second &&& 0xFF) (meets : advance first = advance second)
    (len : Nat) : DemoSigner.spread len first = DemoSigner.spread len second := by
  cases len with
  | zero => rfl
  | succ len =>
    change _ :: DemoSigner.spread len (advance first) = _ :: DemoSigner.spread len (advance second)
    rw [low, meets]

/-- The hash that is spread like the given one if the top byte of that is `0x1A`. -/
def twin (h : UInt32) : UInt32 := h ^^^ 0xFC347500

theorem twin_low (h : UInt32) : twin h &&& 0xFF = h &&& 0xFF := by
  apply UInt32.toNat_inj.mp
  rw [twin, UInt32.toNat_and, UInt32.toNat_xor, Nat.and_xor_distrib_right, UInt32.toNat_and]
  exact Nat.xor_zero _

theorem rotateLeft8_xor (first second : UInt32) :
    DemoSigner.rotateLeft8 (first ^^^ second) = DemoSigner.rotateLeft8 first ^^^ DemoSigner.rotateLeft8 second := by
  apply UInt32.toBitVec_inj.mp
  simp only [DemoSigner.rotateLeft8, UInt32.toBitVec_or, UInt32.toBitVec_xor, UInt32.toBitVec_shiftLeft,
    UInt32.toBitVec_shiftRight]
  ext bit inside
  by_cases low : bit < 8
  · simp [low]
  · have above (word : BitVec 32) : word.getLsbD (24 + bit) = false := BitVec.getLsbD_of_ge _ _ (by omega)
    simp [low, above]

theorem advance_twin {h : UInt32} (top : h >>> 24 = 0x1A) : advance (twin h) = advance h := by
  have other : twin h >>> 24 = 0xE6 := by
    rw [twin, UInt32.shiftRight_xor, top]
    rfl
  rw [advance, advance, other, top, twin, rotateLeft8_xor, UInt32.xor_assoc]
  rfl

theorem twin_accepted {signing checking : UInt32} {data : List UInt8} (top : keyed signing data >>> 24 = 0x1A)
    (twins : keyed checking data = twin (keyed signing data)) (len : Nat) : Accepted len signing checking data := by
  apply accepted_iff.mpr
  rw [twins]
  exact spread_meets (twin_low _) (advance_twin top) len

theorem toUInt8_twin (h : UInt32) : (twin h).toUInt8 = h.toUInt8 := by
  rw [← toUInt8_low, twin_low, toUInt8_low]

private theorem low_above (h : UInt32) : (h &&& 0xFF) >>> 24 = 0 := by
  apply UInt32.toNat_inj.mp
  have bound : (h.toNat &&& 255) ≤ 255 := Nat.and_le_right
  rw [UInt32.toNat_shiftRight, UInt32.toNat_and]
  exact Nat.shiftRight_eq_zero _ _ (Nat.lt_of_le_of_lt bound (by decide))

/-- Of the keys with one low byte, two sign the message alike. -/
theorem low_byte_accepts (len : Nat) (data : List UInt8) (low : UInt8) :
    ∃ signing checking : UInt32, signing.toUInt8 = low ∧ checking.toUInt8 = low ∧ signing ≠ checking ∧
      Accepted len signing checking data := by
  obtain ⟨signing, signed⟩ := keyed_surjective data (0x1A000000 ^^^ (keyed low.toUInt32 data &&& 0xFF))
  obtain ⟨checking, checked⟩ := keyed_surjective data (twin (keyed signing data))
  have top : keyed signing data >>> 24 = 0x1A := by
    rw [signed, UInt32.shiftRight_xor, low_above]
    rfl
  have kept : (keyed signing data).toUInt8 = (keyed low.toUInt32 data).toUInt8 := by
    rw [signed, UInt32.toUInt8_xor, toUInt8_low]
    exact UInt8.zero_xor
  have twins : (keyed checking data).toUInt8 = (keyed low.toUInt32 data).toUInt8 := by
    rw [checked, toUInt8_twin, kept]
  refine ⟨signing, checking, ?_, ?_, ?_, twin_accepted top checked len⟩
  · exact (keyed_low kept).trans (UInt8.toUInt8_toUInt32 low)
  · exact (keyed_low twins).trans (UInt8.toUInt8_toUInt32 low)
  · intro same
    rw [← same] at checked
    have moved := (UInt32.xor_right_inj (keyed signing data)).mp (UInt32.xor_zero.trans checked)
    exact absurd moved (by decide)

/-- Whatever the message, a signature is rejected under every other key exactly if
the low bytes of the keys differ: the low byte is all that is sure to be checked. -/
theorem wrong_keys_rejected_iff (len : Nat) (data : List UInt8) (first second : UInt8) :
    (∀ signing checking : UInt32, signing.toUInt8 = first → checking.toUInt8 = second → signing ≠ checking →
      ¬ Accepted (len + 1) signing checking data) ↔ first ≠ second := by
  constructor
  · intro rejects same
    obtain ⟨signing, checking, signingLow, checkingLow, different, accepted⟩ := low_byte_accepts (len + 1) data first
    exact rejects signing checking signingLow (checkingLow.trans same) different accepted
  · intro differ signing checking signingLow checkingLow _ accepted
    exact differ (signingLow.symm.trans ((accepted_low accepted).trans checkingLow))

/-- The top byte, which decides what a state is advanced by. -/
def top (state : UInt32) : UInt8 := (state >>> 24).toUInt8

end TptChassis.Proofs.SignerKeys

import TptChassis.Library.Slices

/-! Machine words: 32-bit words as four bytes or as two halves, and the addition
of sizes, which overflows at a different value on every target. -/

namespace Words
open Slices

/-- A target, by how many values its `usize` has: at least those of 16 bits. -/
structure Target where
  sizes : Nat
  wide : 65536 ≤ sizes

/-- Addition of sizes; it panics when it overflows. -/
def Target.add (target : Target) (first second : Nat) : Checked Nat :=
  if first + second < target.sizes then some (first + second) else none

theorem Target.add_eq {target : Target} {first second : Nat} (fits : first + second < target.sizes) :
    target.add first second = some (first + second) :=
  if_pos fits

theorem Target.zero_add (target : Target) {size : Nat} (small : size < 65536) : target.add 0 size = some size := by
  have wide := target.wide
  rw [Target.add_eq (by omega), Nat.zero_add]

theorem Target.add_overflow {target : Target} {first second : Nat} (exceeds : target.sizes ≤ first + second) :
    target.add first second = none :=
  if_neg (Nat.not_lt.mpr exceeds)

/-- `u32::to_be_bytes` -/
def toBeBytes (value : UInt32) : List UInt8 :=
  [(value >>> 24).toUInt8, (value >>> 16).toUInt8, (value >>> 8).toUInt8, value.toUInt8]

/-- `u32::from_be_bytes` -/
def fromBeBytes (first second third fourth : UInt8) : UInt32 :=
  UInt32.ofNat (((first.toNat * 256 + second.toNat) * 256 + third.toNat) * 256 + fourth.toNat)

theorem toNat_fromBeBytes (first second third fourth : UInt8) :
    (fromBeBytes first second third fourth).toNat =
      ((first.toNat * 256 + second.toNat) * 256 + third.toNat) * 256 + fourth.toNat := by
  have bounds := And.intro first.toNat_lt (And.intro second.toNat_lt (And.intro third.toNat_lt fourth.toNat_lt))
  rw [fromBeBytes, UInt32.toNat_ofNat']
  omega

private theorem toNat_byte (value shift : UInt32) (small : shift.toNat < 32) :
    (value >>> shift).toUInt8.toNat = (value.toNat >>> shift.toNat) % 256 := by
  rw [UInt32.toNat_toUInt8, UInt32.toNat_shiftRight, Nat.mod_eq_of_lt small]

theorem toBeBytes_fromBeBytes (first second third fourth : UInt8) :
    toBeBytes (fromBeBytes first second third fourth) = [first, second, third, fourth] := by
  have bounds := And.intro first.toNat_lt (And.intro second.toNat_lt (And.intro third.toNat_lt fourth.toNat_lt))
  have word := toNat_fromBeBytes first second third fourth
  simp only [toBeBytes, List.cons.injEq, ← UInt8.toNat_inj, and_true]
  refine ⟨?_, ?_, ?_, ?_⟩
  · rw [toNat_byte _ 24 (by decide), word]
    simp only [UInt32.reduceToNat, Nat.shiftRight_eq_div_pow, Nat.reducePow]
    omega
  · rw [toNat_byte _ 16 (by decide), word]
    simp only [UInt32.reduceToNat, Nat.shiftRight_eq_div_pow, Nat.reducePow]
    omega
  · rw [toNat_byte _ 8 (by decide), word]
    simp only [UInt32.reduceToNat, Nat.shiftRight_eq_div_pow, Nat.reducePow]
    omega
  · rw [UInt32.toNat_toUInt8, word]
    omega

theorem fromBeBytes_toBeBytes (value : UInt32) :
    fromBeBytes (value >>> 24).toUInt8 (value >>> 16).toUInt8 (value >>> 8).toUInt8 value.toUInt8 = value := by
  have bound := value.toNat_lt
  rw [← UInt32.toNat_inj, toNat_fromBeBytes, toNat_byte _ 24 (by decide), toNat_byte _ 16 (by decide),
    toNat_byte _ 8 (by decide), UInt32.toNat_toUInt8]
  simp only [UInt32.reduceToNat, Nat.shiftRight_eq_div_pow, Nat.reducePow] at bound ⊢
  omega

theorem length_toBeBytes (value : UInt32) : (toBeBytes value).length = 4 := rfl

/-- `u32::to_le_bytes` -/
def toLeBytes (value : UInt32) : List UInt8 :=
  [value.toUInt8, (value >>> 8).toUInt8, (value >>> 16).toUInt8, (value >>> 24).toUInt8]

/-- `u32::from_le_bytes` -/
def fromLeBytes (first second third fourth : UInt8) : UInt32 := fromBeBytes fourth third second first

theorem fromLeBytes_toLeBytes (value : UInt32) :
    fromLeBytes value.toUInt8 (value >>> 8).toUInt8 (value >>> 16).toUInt8 (value >>> 24).toUInt8 = value :=
  fromBeBytes_toBeBytes value

/-- `u16::to_le_bytes` -/
def shortToLeBytes (value : UInt16) : List UInt8 := [value.toUInt8, (value >>> 8).toUInt8]

/-- `u16::from_le_bytes` -/
def shortFromLeBytes (low high : UInt8) : UInt16 := UInt16.ofNat (high.toNat * 256 + low.toNat)

theorem shortFromLeBytes_toLeBytes (value : UInt16) :
    shortFromLeBytes value.toUInt8 (value >>> 8).toUInt8 = value := by
  have bound := value.toNat_lt
  rw [← UInt16.toNat_inj, shortFromLeBytes, UInt16.toNat_ofNat', UInt16.toNat_toUInt8, UInt16.toNat_toUInt8,
    UInt16.toNat_shiftRight, Nat.shiftRight_eq_div_pow]
  simp only [UInt16.reduceToNat, Nat.reduceMod, Nat.reducePow] at bound ⊢
  omega

/-- `u16::to_be_bytes` -/
def shortToBeBytes (value : UInt16) : List UInt8 := [(value >>> 8).toUInt8, value.toUInt8]

/-- `u16::from_be_bytes` -/
def shortFromBeBytes (high low : UInt8) : UInt16 := shortFromLeBytes low high

theorem shortFromBeBytes_toBeBytes (value : UInt16) : shortFromBeBytes (value >>> 8).toUInt8 value.toUInt8 = value :=
  shortFromLeBytes_toLeBytes value

def pack (high low : UInt16) : UInt32 := (high.toUInt32 <<< 16) ||| low.toUInt32

theorem toNat_pack (high low : UInt16) : (pack high low).toNat = high.toNat * 65536 + low.toNat := by
  have shifted : (high.toUInt32 <<< 16).toNat = high.toNat <<< 16 := by
    rw [UInt32.toNat_shiftLeft, UInt16.toNat_toUInt32]
    have bound := high.toNat_lt
    simp only [UInt32.reduceToNat, Nat.shiftLeft_eq, Nat.reduceMod, Nat.reducePow] at bound ⊢
    omega
  rw [pack, UInt32.toNat_or, shifted, UInt16.toNat_toUInt32, ← Nat.shiftLeft_add_eq_or_of_lt low.toNat_lt,
    Nat.shiftLeft_eq]

theorem toNat_high (value : UInt32) : (value >>> 16).toUInt16.toNat = value.toNat / 65536 := by
  have bound := value.toNat_lt
  rw [UInt32.toNat_toUInt16, UInt32.toNat_shiftRight, Nat.shiftRight_eq_div_pow]
  simp only [UInt32.reduceToNat, Nat.reduceMod, Nat.reducePow] at bound ⊢
  omega

theorem toNat_low (value : UInt32) : (value &&& 0xFFFF).toUInt16.toNat = value.toNat % 65536 := by
  have masked : value.toNat &&& (0xFFFF : UInt32).toNat = value.toNat % 65536 :=
    Nat.and_two_pow_sub_one_eq_mod value.toNat 16
  rw [UInt32.toNat_toUInt16, UInt32.toNat_and, masked]
  omega

theorem high_pack (high low : UInt16) : (pack high low >>> 16).toUInt16 = high := by
  have bound := low.toNat_lt
  rw [← UInt16.toNat_inj, toNat_high, toNat_pack]
  omega

theorem low_pack (high low : UInt16) : (pack high low &&& 0xFFFF).toUInt16 = low := by
  have bound := low.toNat_lt
  rw [← UInt16.toNat_inj, toNat_low, toNat_pack]
  omega

theorem pack_halves (value : UInt32) : pack (value >>> 16).toUInt16 (value &&& 0xFFFF).toUInt16 = value := by
  rw [← UInt32.toNat_inj, toNat_pack, toNat_high, toNat_low]
  omega

end Words

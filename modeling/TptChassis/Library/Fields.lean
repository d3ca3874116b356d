import Mathlib.Data.List.Basic

/-! Bit fields: runs of bits inside a word, each of which holds a number of its
own. Reading and writing a field are the two halves of a lens on the word. -/

/-- The bits from `start` on, `length` of them. They all lie inside the word. -/
structure BitField (w : Nat) where
  start : Nat
  length : Nat
  inside : start + length ≤ w

namespace BitField
variable {w : Nat}

def Covers (field : BitField w) (bit : Nat) : Prop := field.start ≤ bit ∧ bit < field.start + field.length

instance (field : BitField w) (bit : Nat) : Decidable (field.Covers bit) := inferInstanceAs (Decidable (_ ∧ _))

/-- No bit belongs to both. -/
def Apart (first second : BitField w) : Prop := ∀ bit, first.Covers bit → ¬ second.Covers bit

theorem Apart.symm {first second : BitField w} (apart : first.Apart second) : second.Apart first :=
  fun bit covered other => apart bit other covered

/-- The lowest bits of a word, as many as the field has. -/
def mask (field : BitField w) : BitVec w := BitVec.ofNat w (Nat.pow 2 field.length - 1)

def read (field : BitField w) (word : BitVec w) : BitVec w := (word >>> field.start) &&& field.mask

def write (field : BitField w) (word value : BitVec w) : BitVec w :=
  (word &&& ~~~ (field.mask <<< field.start)) ||| (value <<< field.start)

def Fits (field : BitField w) (value : BitVec w) : Prop := value &&& ~~~ field.mask = 0#w

theorem getLsbD_mask (field : BitField w) (bit : Nat) : field.mask.getLsbD bit = decide (bit < field.length) := by
  have ones : (Nat.pow 2 field.length - 1).testBit bit = decide (bit < field.length) := Nat.testBit_two_pow_sub_one _ _
  rw [mask, BitVec.getLsbD_ofNat, ones]
  have inside := field.inside
  by_cases low : bit < field.length
  · rw [decide_eq_true low, decide_eq_true (by omega), Bool.true_and]
  · rw [decide_eq_false low, Bool.and_false]

theorem getLsbD_read (field : BitField w) (word : BitVec w) (bit : Nat) :
    (field.read word).getLsbD bit = (decide (bit < field.length) && word.getLsbD (field.start + bit)) := by
  rw [read, BitVec.getLsbD_and, BitVec.getLsbD_ushiftRight, getLsbD_mask, Bool.and_comm]

theorem fits_iff_bits {field : BitField w} {value : BitVec w} :
    field.Fits value ↔ ∀ bit, field.length ≤ bit → value.getLsbD bit = false := by
  constructor
  · intro fits bit high
    by_cases inside : bit < w
    · have clear := congrArg (fun word => word.getLsbD bit) fits
      simp only [BitVec.getLsbD_and, BitVec.getLsbD_not, getLsbD_mask, inside, decide_true, Nat.not_lt.mpr high,
        decide_false, Bool.not_false, Bool.and_true, BitVec.getLsbD_zero] at clear
      exact clear
    · exact BitVec.getLsbD_of_ge _ _ (Nat.not_lt.mp inside)
  · intro clear
    apply BitVec.eq_of_getLsbD_eq
    intro bit inside
    rw [BitVec.getLsbD_and, BitVec.getLsbD_not, getLsbD_mask, BitVec.getLsbD_zero]
    by_cases low : bit < field.length
    · rw [decide_eq_true low, Bool.not_true, Bool.and_false, Bool.and_false]
    · rw [clear bit (Nat.not_lt.mp low), Bool.false_and]

theorem fits_iff {field : BitField w} {value : BitVec w} : field.Fits value ↔ value.toNat < Nat.pow 2 field.length := by
  rw [fits_iff_bits]
  constructor
  · exact Nat.lt_pow_two_of_testBit value.toNat
  · intro small bit high
    exact Nat.testBit_lt_two_pow (Nat.lt_of_lt_of_le small (Nat.pow_le_pow_right (Nat.succ_pos 1) high))

theorem fits_read (field : BitField w) (word : BitVec w) : field.Fits (field.read word) := by
  apply fits_iff_bits.mpr
  intro bit high
  rw [getLsbD_read, decide_eq_false (Nat.not_lt.mpr high), Bool.false_and]

/-- Inside the field the bits are those of the value, outside those of the word. -/
theorem getLsbD_write {field : BitField w} {value : BitVec w} (fits : field.Fits value) (word : BitVec w) (bit : Nat) :
    (field.write word value).getLsbD bit =
      if field.Covers bit then value.getLsbD (bit - field.start) else word.getLsbD bit := by
  have inside := field.inside
  rw [write, BitVec.getLsbD_or, BitVec.getLsbD_and, BitVec.getLsbD_not, BitVec.getLsbD_shiftLeft, BitVec.getLsbD_shiftLeft,
    getLsbD_mask]
  by_cases covered : field.Covers bit
  · have within : bit < w := Nat.lt_of_lt_of_le covered.2 inside
    have reached : ¬ bit < field.start := Nat.not_lt.mpr covered.1
    have low : bit - field.start < field.length := by
      have last := covered.2
      omega
    rw [if_pos covered]
    simp only [within, reached, low, decide_true, decide_false, Bool.not_true, Bool.not_false, Bool.and_true, Bool.true_and,
      Bool.and_false, Bool.false_or]
  · rw [if_neg covered]
    by_cases within : bit < w
    · by_cases reached : bit < field.start
      · simp only [within, reached, decide_true, Bool.not_true, Bool.not_false, Bool.and_true, Bool.and_false, Bool.false_and,
          Bool.or_false]
      · have high : field.length ≤ bit - field.start := by
          have beyond : ¬ bit < field.start + field.length := fun last => covered ⟨Nat.not_lt.mp reached, last⟩
          omega
        rw [fits_iff_bits.mp fits _ high]
        simp only [within, Nat.not_lt.mpr high, decide_true, decide_false, Bool.not_false, Bool.and_true, Bool.and_false,
          Bool.or_false]
    · rw [BitVec.getLsbD_of_ge word _ (Nat.not_lt.mp within), decide_eq_false within]
      simp only [Bool.false_and, Bool.and_false, Bool.or_false]

theorem read_write {field : BitField w} {value : BitVec w} (fits : field.Fits value) (word : BitVec w) :
    field.read (field.write word value) = value := by
  apply BitVec.eq_of_getLsbD_eq
  intro bit _
  rw [getLsbD_read, getLsbD_write fits]
  by_cases low : bit < field.length
  · have covered : field.Covers (field.start + bit) := ⟨Nat.le_add_right _ _, Nat.add_lt_add_left low _⟩
    rw [decide_eq_true low, Bool.true_and, if_pos covered, Nat.add_sub_cancel_left]
  · rw [decide_eq_false low, Bool.false_and, fits_iff_bits.mp fits bit (Nat.not_lt.mp low)]

theorem write_read (field : BitField w) (word : BitVec w) : field.write word (field.read word) = word := by
  apply BitVec.eq_of_getLsbD_eq
  intro bit _
  rw [getLsbD_write (field.fits_read word)]
  split
  next covered =>
    obtain ⟨first, last⟩ := covered
    rw [getLsbD_read, Nat.add_sub_cancel' first, decide_eq_true (by omega), Bool.true_and]
  next => rfl

theorem read_write_apart {field other : BitField w} (apart : field.Apart other) {value : BitVec w} (fits : field.Fits value)
    (word : BitVec w) : other.read (field.write word value) = other.read word := by
  apply BitVec.eq_of_getLsbD_eq
  intro bit _
  rw [getLsbD_read, getLsbD_read, getLsbD_write fits]
  by_cases low : bit < other.length
  · have covered : other.Covers (other.start + bit) := ⟨Nat.le_add_right _ _, Nat.add_lt_add_left low _⟩
    rw [if_neg fun both => apart _ both covered]
  · rw [decide_eq_false low, Bool.false_and, Bool.false_and]

theorem write_comm {field other : BitField w} (apart : field.Apart other) {value second : BitVec w} (fits : field.Fits value)
    (fits' : other.Fits second) (word : BitVec w) :
    other.write (field.write word value) second = field.write (other.write word second) value := by
  apply BitVec.eq_of_getLsbD_eq
  intro bit _
  rw [getLsbD_write fits', getLsbD_write fits, getLsbD_write fits, getLsbD_write fits']
  by_cases covered : field.Covers bit
  · rw [if_neg (apart bit covered), if_pos covered, if_pos covered]
  · rw [if_neg covered, if_neg covered]

end BitField

namespace Bits
variable {w : Nat}

/-- A word with one of its bits set or cleared. -/
def put (word : BitVec w) (bit : Nat) (value : Bool) : BitVec w :=
  if value then word ||| (1#w <<< bit) else word &&& ~~~ (1#w <<< bit)

theorem getLsbD_one_shifted {bit index : Nat} (inside : index < w) : (1#w <<< bit).getLsbD index = decide (index = bit) := by
  rw [BitVec.getLsbD_shiftLeft, BitVec.getLsbD_one, Bool.eq_iff_iff]
  simp only [Bool.and_eq_true, Bool.not_eq_true', decide_eq_true_eq, decide_eq_false_iff_not]
  omega

theorem getLsbD_put (word : BitVec w) (value : Bool) {bit index : Nat} (inside : index < w) :
    (put word bit value).getLsbD index = if index = bit then value else word.getLsbD index := by
  unfold put
  cases value with
  | true =>
    rw [if_pos rfl, BitVec.getLsbD_or, getLsbD_one_shifted inside]
    by_cases same : index = bit <;> simp [same]
  | false =>
    rw [if_neg Bool.false_ne_true, BitVec.getLsbD_and, BitVec.getLsbD_not, getLsbD_one_shifted inside]
    by_cases same : index = bit <;> simp [same, inside]

theorem masked_iff (word : BitVec w) {bit : Nat} (inside : bit < w) :
    word &&& (1#w <<< bit) ≠ 0#w ↔ word.getLsbD bit = true := by
  constructor
  · intro some
    by_contra clear
    apply some
    apply BitVec.eq_of_getLsbD_eq
    intro index bound
    rw [BitVec.getLsbD_and, getLsbD_one_shifted bound, BitVec.getLsbD_zero]
    by_cases same : index = bit
    · rw [same, Bool.eq_false_iff.mpr clear, Bool.false_and]
    · rw [decide_eq_false same, Bool.and_false]
  · intro set zero
    have bits := congrArg (fun masked => masked.getLsbD bit) zero
    simp only [BitVec.getLsbD_and, getLsbD_one_shifted inside, set, decide_true, Bool.and_self, BitVec.getLsbD_zero] at bits
    cases bits

/-- The word that has these bits. -/
def gather (bits : Fin w → Bool) : BitVec w := (BitVec.ofBoolListLE (List.ofFn bits)).cast List.length_ofFn

theorem getLsbD_gather (bits : Fin w → Bool) {index : Nat} (inside : index < w) :
    (gather bits).getLsbD index = bits ⟨index, inside⟩ := by
  rw [gather, BitVec.getLsbD_cast, BitVec.getLsbD_ofBoolListLE, List.getD_eq_getElem?_getD, List.getElem?_ofFn,
    dif_pos inside, Option.getD_some]

theorem gather_getLsbD (word : BitVec w) : gather (fun index : Fin w => word.getLsbD index) = word :=
  BitVec.eq_of_getLsbD_eq fun _ inside => getLsbD_gather _ inside

end Bits

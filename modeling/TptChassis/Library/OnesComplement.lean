import Mathlib.Algebra.BigOperators.Group.List.Basic
import Mathlib.Data.Nat.ModEq

/-! Ones' complement sums: digits are added and the carry is brought around to
the lowest place. The highest digit counts as a second zero, so a sum does not
tell it from zero unless there is nothing else in it. -/

namespace OnesComplement

variable {radix : Nat}

/-- Adds two digits and brings the carry around. -/
def add (radix first second : Nat) : Nat := (first + second) % radix + (first + second) / radix

def sum (radix : Nat) (digits : List Nat) : Nat := digits.foldl (add radix) 0

/-- The digit that stands for a total. Only the total zero is represented by zero. -/
def digit (radix total : Nat) : Nat := if total = 0 then 0 else (total - 1) % (radix - 1) + 1

theorem digit_zero (radix : Nat) : digit radix 0 = 0 := rfl

theorem digit_positive (radix : Nat) {total : Nat} (positive : total ≠ 0) :
    digit radix total = (total - 1) % (radix - 1) + 1 :=
  if_neg positive

theorem digit_lt (wide : 1 < radix) (total : Nat) : digit radix total < radix := by
  by_cases positive : total = 0
  · rw [positive, digit_zero]
    omega
  · have remainder := Nat.mod_lt (total - 1) (Nat.sub_pos_of_lt wide)
    rw [digit_positive radix positive]
    omega

theorem add_small {first second : Nat} (small : first + second < radix) : add radix first second = first + second := by
  rw [add, Nat.mod_eq_of_lt small, Nat.div_eq_of_lt small, Nat.add_zero]

theorem add_carry {first second : Nat} (reaches : radix ≤ first + second) (small : first + second < 2 * radix) :
    add radix first second = first + second - (radix - 1) := by
  have positive : 0 < radix := by omega
  have quotient : (first + second) / radix = 1 := by
    apply Nat.div_eq_of_lt_le <;> omega
  have remainder := Nat.div_add_mod (first + second) radix
  rw [quotient, Nat.mul_one] at remainder
  rw [add, quotient]
  omega

theorem add_lt {first second : Nat} (bounded : first < radix) (bounded' : second < radix) :
    add radix first second < radix := by
  by_cases small : first + second < radix
  · rwa [add_small small]
  · rw [add_carry (Nat.not_lt.mp small) (by omega)]
    omega

theorem add_digit (wide : 1 < radix) (total : Nat) {next : Nat} (bounded : next < radix) :
    add radix (digit radix total) next = digit radix (total + next) := by
  by_cases positive : total = 0
  · rw [positive, digit_zero, Nat.zero_add, add_small (by omega), Nat.zero_add]
    by_cases nothing : next = 0
    · rw [nothing, digit_zero]
    · rw [digit_positive radix nothing, Nat.mod_eq_of_lt (by omega)]
      omega
  · have remainder := Nat.mod_lt (total - 1) (Nat.sub_pos_of_lt wide)
    have shifted : (total + next - 1) % (radix - 1) = ((total - 1) % (radix - 1) + next) % (radix - 1) := by
      rw [Nat.mod_add_mod]
      congr 1
      omega
    rw [digit_positive radix positive, digit_positive radix (show total + next ≠ 0 by omega), shifted]
    generalize (total - 1) % (radix - 1) = rest at remainder
    by_cases fits : rest + next < radix - 1
    · rw [add_small (by omega), Nat.mod_eq_of_lt fits]
      omega
    · rw [add_carry (by omega) (by omega), Nat.mod_eq_sub_mod (Nat.not_lt.mp fits), Nat.mod_eq_of_lt (by omega)]
      omega

theorem foldl_add (wide : 1 < radix) {digits : List Nat} (bounded : ∀ item ∈ digits, item < radix) (total : Nat) :
    digits.foldl (add radix) (digit radix total) = digit radix (total + digits.sum) := by
  induction digits generalizing total with
  | nil => rfl
  | cons item digits ih =>
    obtain ⟨small, others⟩ := List.forall_mem_cons.mp bounded
    rw [List.foldl_cons, add_digit wide total small, ih others, List.sum_cons, Nat.add_assoc]

theorem sum_digit (wide : 1 < radix) {digits : List Nat} (bounded : ∀ item ∈ digits, item < radix) :
    sum radix digits = digit radix digits.sum := by
  have folded := foldl_add wide bounded 0
  rwa [digit_zero, Nat.zero_add] at folded

theorem sum_lt (wide : 1 < radix) {digits : List Nat} (bounded : ∀ item ∈ digits, item < radix) :
    sum radix digits < radix := by
  rw [sum_digit wide bounded]
  exact digit_lt wide _

theorem sum_perm (wide : 1 < radix) {digits other : List Nat} (bounded : ∀ item ∈ digits, item < radix)
    (permuted : other.Perm digits) : sum radix other = sum radix digits := by
  rw [sum_digit wide bounded, sum_digit wide fun item member => bounded item (permuted.mem_iff.mp member), permuted.sum_eq]

theorem add_complement {item : Nat} (bounded : item < radix) : add radix item (radix - 1 - item) = radix - 1 := by
  rw [add_small (by omega)]
  omega

private theorem digit_eq_smaller (total : Nat) {first second : Nat} (bounded : first < radix) (bounded' : second < radix)
    (smaller : first < second) :
    digit radix (total + first) = digit radix (total + second) ↔ (first = 0 ∧ second = radix - 1) ∧ total ≠ 0 := by
  have positive : total + second ≠ 0 := by omega
  rw [digit_positive radix positive]
  by_cases nothing : total + first = 0
  · rw [nothing, digit_zero]
    constructor
    · intro same
      omega
    · intro given
      omega
  · rw [digit_positive radix nothing]
    have divides : (total + first - 1) % (radix - 1) = (total + second - 1) % (radix - 1) ↔ radix - 1 ∣ second - first := by
      have below : total + first - 1 ≤ total + second - 1 := by omega
      have difference : total + second - 1 - (total + first - 1) = second - first := by omega
      exact (Nat.modEq_iff_dvd' below).trans (by rw [difference])
    rw [Nat.add_right_cancel_iff, divides]
    constructor
    · intro given
      -- The difference is at most the modulus, so it is all of it.
      have far := Nat.le_of_dvd (Nat.sub_pos_of_lt smaller) given
      omega
    · intro given
      have whole : second - first = radix - 1 := by omega
      rw [whole]

/-- Two digits are told apart in any sum, except for the two zeros in a sum with
something else in it. -/
theorem digit_eq_iff (total : Nat) {first second : Nat} (bounded : first < radix) (bounded' : second < radix)
    (different : first ≠ second) :
    digit radix (total + first) = digit radix (total + second) ↔
      ((first = 0 ∧ second = radix - 1) ∨ (first = radix - 1 ∧ second = 0)) ∧ total ≠ 0 := by
  rcases Nat.lt_or_gt_of_ne different with smaller | larger
  · rw [digit_eq_smaller total bounded bounded' smaller]
    omega
  · rw [eq_comm, digit_eq_smaller total bounded' bounded larger]
    omega

end OnesComplement

import Mathlib.Data.List.Rotate

/-! Ring buffers: a log of which an array keeps the newest items. Items are
written at a head that goes round the array, and the array is read from its
front until it is full, from the head afterwards. -/

namespace Rings

universe u
variable {α : Type u}

/-- The last items of a log, as many as there is room for. -/
def newest (room : Nat) (log : List α) : List α := log.drop (log.length - room)

theorem length_newest (room : Nat) (log : List α) : (newest room log).length = min log.length room := by
  rw [newest, List.length_drop]
  omega

theorem newest_all {room : Nat} {log : List α} (fits : log.length ≤ room) : newest room log = log := by
  rw [newest, Nat.sub_eq_zero_of_le fits, List.drop_zero]

theorem newest_concat (room : Nat) (log : List α) (item : α) :
    newest room (newest room log ++ [item]) = newest room (log ++ [item]) := by
  by_cases fits : log.length ≤ room
  · rw [newest_all fits]
  · have inside : log.length - room ≤ log.length := Nat.sub_le _ _
    have kept : (newest room log ++ [item]).length - room = 1 := by
      rw [List.length_append, length_newest, List.length_singleton]
      omega
    have all : (log ++ [item]).length - room = log.length - room + 1 := by
      rw [List.length_append, List.length_singleton]
      omega
    have first : newest room (newest room log ++ [item]) = (newest room log ++ [item]).drop 1 := by
      rw [← kept]
      rfl
    have second : newest room (log ++ [item]) = (log ++ [item]).drop (log.length - room + 1) := by
      rw [← all]
      rfl
    rw [first, second, newest, ← List.drop_append_of_le_length inside, List.drop_drop]

theorem getLast?_newest {room : Nat} (positive : 0 < room) (log : List α) : (newest room log).getLast? = log.getLast? := by
  rw [newest, List.getLast?_drop]
  split
  next short =>
    have empty : log.length = 0 := by omega
    rw [List.length_eq_zero_iff.mp empty, List.getLast?_nil]
  next => rfl

/-- A head inside an array that holds `count` items. Until the array is full the
head has not gone round it. -/
structure Positioned (items : List α) (head count : Nat) : Prop where
  inside : head < items.length
  bounded : count ≤ items.length
  behind : count < items.length → head = count

/-- The items held, from the oldest to the newest. -/
def contents (items : List α) (head count : Nat) : List α :=
  if count = items.length then items.rotate head else items.take count

theorem length_contents {items : List α} {head count : Nat} (positioned : Positioned items head count) :
    (contents items head count).length = count := by
  unfold contents
  split
  next full => rw [List.length_rotate, full]
  next => rw [List.length_take, Nat.min_eq_left positioned.bounded]

private theorem rotate_set {items : List α} {head : Nat} (inside : head < items.length) (item : α) :
    (items.set head item).rotate ((head + 1) % items.length) = items.drop (head + 1) ++ (items.take head ++ [item]) := by
  have front : (items.set head item).take (head + 1) = items.take head ++ [item] := by
    rw [List.take_add_one, List.take_set_of_le (Nat.le_refl head), List.getElem?_set_self inside]
    rfl
  have length : (items.set head item).length = items.length := List.length_set
  rw [← length, List.rotate_mod, List.rotate_eq_drop_append_take (by omega), front, List.drop_set_of_lt (Nat.lt_succ_self head)]

/-- Writing an item at the head adds it to the newest ones. -/
theorem contents_push {items : List α} {head count : Nat} (positioned : Positioned items head count) (item : α) :
    contents (items.set head item) ((head + 1) % items.length) (if count < items.length then count + 1 else count) =
      newest items.length (contents items head count ++ [item]) := by
  have inside := positioned.inside
  have bounded := positioned.bounded
  have length : (items.set head item).length = items.length := List.length_set
  by_cases full : count = items.length
  · have whole : ¬ count < items.length := by omega
    have order : contents items head count = items.rotate head := if_pos full
    have pushed : contents (items.set head item) ((head + 1) % items.length) count =
        (items.set head item).rotate ((head + 1) % items.length) := if_pos (full.trans length.symm)
    rw [if_neg whole, pushed, rotate_set inside, order, newest, List.length_append, List.length_rotate, List.length_singleton,
      Nat.add_sub_cancel_left, List.rotate_eq_drop_append_take (Nat.le_of_lt inside), List.append_assoc,
      List.drop_append_of_le_length (by rw [List.length_drop]; omega), List.drop_drop]
  · have room : count < items.length := by omega
    have held : contents items head count = items.take count := if_neg full
    have short : (items.take count).length = count := by rw [List.length_take, Nat.min_eq_left bounded]
    rw [if_pos room, held, newest_all (by rw [List.length_append, short]; exact room), ← positioned.behind room]
    by_cases last : head + 1 = items.length
    · have pushed : contents (items.set head item) ((head + 1) % items.length) (head + 1) =
          (items.set head item).rotate ((head + 1) % items.length) := if_pos (last.trans length.symm)
      rw [pushed, rotate_set inside, List.drop_eq_nil_of_le (Nat.le_of_eq last.symm), List.nil_append]
    · have pushed : contents (items.set head item) ((head + 1) % items.length) (head + 1) =
          (items.set head item).take (head + 1) := if_neg fun full => last (full.trans length)
      rw [pushed, List.take_add_one, List.take_set_of_le (Nat.le_refl head), List.getElem?_set_self inside]
      rfl

theorem Positioned.push {items : List α} {head count : Nat} (positioned : Positioned items head count) (item : α) :
    Positioned (items.set head item) ((head + 1) % items.length) (if count < items.length then count + 1 else count) := by
  have inside := positioned.inside
  have bounded := positioned.bounded
  constructor
  · rw [List.length_set]
    exact Nat.mod_lt _ (by omega)
  · rw [List.length_set]
    split
    · assumption
    · exact bounded
  · rw [List.length_set]
    split
    next room =>
      intro more
      rw [positioned.behind room, Nat.mod_eq_of_lt more]
    next full =>
      intro room
      exact absurd room full

/-- The items are found one after the other from where the oldest one stands. -/
theorem getElem?_contents {items : List α} {head count : Nat} (positioned : Positioned items head count) {index : Nat}
    (held : index < count) :
    items[((if count = items.length then head else 0) + index) % items.length]? = (contents items head count)[index]? := by
  have bounded := positioned.bounded
  unfold contents
  split
  next full => rw [List.getElem?_rotate (by omega), Nat.add_comm]
  next => rw [Nat.zero_add, Nat.mod_eq_of_lt (by omega), List.getElem?_take_of_lt held]

theorem mapM_range {read : Nat → Option α} {items : List α} (reads : ∀ index < items.length, read index = items[index]?) :
    (List.range items.length).mapM read = some items := by
  have fronts : ∀ count, count ≤ items.length → (List.range count).mapM read = some (items.take count) := by
    intro count
    induction count with
    | zero => exact fun _ => rfl
    | succ count ih =>
      intro inside
      rw [List.range_succ, List.mapM_append, ih (by omega), List.take_add_one]
      simp only [List.mapM_cons, List.mapM_nil, reads count (by omega), List.getElem?_eq_getElem inside]
      rfl
  rw [fronts items.length (Nat.le_refl _), List.take_length]

end Rings

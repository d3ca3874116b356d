import Mathlib.Data.List.Basic

/-! Fixed arrays and the slices a program reads from and copies into them. An
access outside an array stops the program, so it has no value here. -/

namespace Slices

universe u
variable {α : Type u}

/-- A computation that a panic may stop: `none` is the panic. -/
abbrev Checked (α : Type u) := Option α

/-- The elements `first..last`; the range must lie inside the array. -/
def slice (items : List α) (first last : Nat) : Checked (List α) :=
  if first ≤ last ∧ last ≤ items.length then some ((items.drop first).take (last - first)) else none

/-- `data` in place of the elements from `offset` on. -/
def overwrite (items : List α) (offset : Nat) (data : List α) : List α :=
  items.take offset ++ data ++ items.drop (offset + data.length)

/-- Stores `data` into a slice from `offset` on; it must fit. -/
def store (items : List α) (offset : Nat) (data : List α) : Checked (List α) :=
  if offset + data.length ≤ items.length then some (overwrite items offset data) else none

theorem slice_eq {items : List α} {first last : Nat} (ordered : first ≤ last) (inside : last ≤ items.length) :
    slice items first last = some ((items.drop first).take (last - first)) :=
  if_pos ⟨ordered, inside⟩

theorem slice_front {items : List α} {last : Nat} (inside : last ≤ items.length) :
    slice items 0 last = some (items.take last) := by
  simpa using slice_eq (Nat.zero_le last) inside

theorem slice_back {items : List α} {first : Nat} (inside : first ≤ items.length) :
    slice items first items.length = some (items.drop first) := by
  rw [slice_eq inside (Nat.le_refl _), List.take_of_length_le (by simp)]

theorem slice_reversed {items : List α} {first last : Nat} (reversed : last < first) :
    slice items first last = none :=
  if_neg (fun range => by omega)

theorem length_overwrite {items data : List α} {offset : Nat} (fits : offset + data.length ≤ items.length) :
    (overwrite items offset data).length = items.length := by
  simp only [overwrite, List.length_append, List.length_take, List.length_drop]
  omega

theorem store_eq {items data : List α} {offset : Nat} (fits : offset + data.length ≤ items.length) :
    store items offset data = some (overwrite items offset data) :=
  if_pos fits

theorem slice_some {items data : List α} {first last : Nat} (found : slice items first last = some data) :
    first ≤ last ∧ last ≤ items.length ∧ data = (items.drop first).take (last - first) := by
  unfold slice at found
  split at found
  next range => exact ⟨range.1, range.2, by cases found; rfl⟩
  next => cases found

theorem length_slice {items data : List α} {first last : Nat} (found : slice items first last = some data) :
    data.length = last - first := by
  obtain ⟨_, inside, rfl⟩ := slice_some found
  rw [List.length_take, List.length_drop]
  omega

theorem getElem?_overwrite {items data : List α} {offset : Nat} (fits : offset + data.length ≤ items.length) (index : Nat) :
    (overwrite items offset data)[index]? =
      if offset ≤ index ∧ index < offset + data.length then data[index - offset]? else items[index]? := by
  have front : (items.take offset).length = offset := by
    rw [List.length_take]
    omega
  have middle : (items.take offset ++ data).length = offset + data.length := by rw [List.length_append, front]
  unfold overwrite
  split
  next inside =>
    rw [List.getElem?_append_left (by omega), List.getElem?_append_right (by omega), front]
  next outside =>
    by_cases before : index < offset
    · rw [List.getElem?_append_left (by omega), List.getElem?_append_left (by omega), List.getElem?_take_of_lt before]
    · rw [List.getElem?_append_right (by omega), middle, List.getElem?_drop]
      congr 1
      omega

theorem store_some {items data stored : List α} {offset : Nat} (done : store items offset data = some stored) :
    offset + data.length ≤ items.length ∧ stored = overwrite items offset data := by
  unfold store at done
  split at done
  next fits => exact ⟨fits, by cases done; rfl⟩
  next => cases done

theorem take_overwrite {items data : List α} {offset : Nat} (inside : offset ≤ items.length) :
    (overwrite items offset data).take (offset + data.length) = items.take offset ++ data := by
  apply List.take_left'
  simp [List.length_append, inside]

theorem take_overwrite_zero (items data : List α) :
    (overwrite items 0 data).take data.length = data := by
  simpa using @take_overwrite _ items data 0 (Nat.zero_le _)

theorem overwrite_set {items data : List α} {offset : Nat} (item : α) (inside : offset < items.length) :
    overwrite (items.set offset item) (offset + 1) data = overwrite items offset (item :: data) := by
  have front : (items.set offset item).take (offset + 1) = items.take offset ++ [item] := by
    rw [List.set_eq_take_append_cons_drop, if_pos inside, List.append_cons]
    apply List.take_left'
    simp only [List.length_append, List.length_take, List.length_singleton]
    omega
  have back : (items.set offset item).drop (offset + 1 + data.length) = items.drop (offset + 1 + data.length) :=
    List.drop_set_of_lt (by omega)
  rw [overwrite, overwrite, front, back, List.length_cons, Nat.add_assoc, Nat.add_comm 1]
  simp

theorem overwrite_nil (items : List α) (offset : Nat) : overwrite items offset [] = items := by
  simp [overwrite]

theorem overwrite_front {items data : List α} (front : data <+: items) : overwrite items 0 data = items := by
  obtain ⟨rest, rfl⟩ := front
  simp [overwrite]

theorem front_overwrite (items data : List α) : data <+: overwrite items 0 data := by
  simp [overwrite]

theorem drop_overwrite_zero (items data : List α) :
    (overwrite items 0 data).drop data.length = items.drop data.length := by
  simp [overwrite]

theorem overwrite_append (items first data : List α) :
    overwrite (overwrite items 0 first) first.length data = overwrite items 0 (first ++ data) := by
  rw [overwrite, take_overwrite_zero, ← List.drop_drop, drop_overwrite_zero, List.drop_drop]
  simp [overwrite]

/-- Consecutive pieces of the given size; the last may be shorter. -/
def chunks (size : Nat) (items : List α) : List (List α) :=
  if _ : 0 < size ∧ 0 < items.length then items.take size :: chunks size (items.drop size) else []
termination_by items.length
decreasing_by
  rename_i nonempty
  simp only [List.length_drop]
  omega

/-- All pieces but the last are full, and the last is not empty. -/
theorem chunks_split {size : Nat} (positive : 0 < size) {items : List α} (nonempty : 0 < items.length) :
    ∃ full last, chunks size items = full ++ [last] ∧ (∀ piece ∈ full, piece.length = size) ∧
      full.flatten.length = size * full.length ∧ 0 < last.length ∧ last.length ≤ size ∧
      full.flatten ++ last = items := by
  rw [chunks, dif_pos ⟨positive, nonempty⟩]
  by_cases more : 0 < (items.drop size).length
  · obtain ⟨full, last, split, sizes, total, lastPositive, lastBound, joined⟩ := chunks_split positive more
    have first : (items.take size).length = size := by
      simp only [List.length_drop] at more
      rw [List.length_take]
      omega
    refine ⟨items.take size :: full, last, by simp [split], List.forall_mem_cons.mpr ⟨first, sizes⟩, ?_,
      lastPositive, lastBound, ?_⟩
    · rw [List.flatten_cons, List.length_append, first, total, List.length_cons, Nat.mul_succ, Nat.add_comm]
    · rw [List.flatten_cons, List.append_assoc, joined, List.take_append_drop]
  · have whole : items.length ≤ size := by
      simp only [List.length_drop] at more
      omega
    refine ⟨[], items, ?_, by simp, by simp, nonempty, whole, by simp⟩
    rw [chunks, dif_neg (fun more' => more more'.2), List.take_of_length_le whole, List.nil_append]
termination_by items.length
decreasing_by
  simp only [List.length_drop]
  omega

/-- The number of pieces is the length divided by their size, rounded up. -/
theorem length_chunks {size : Nat} (positive : 0 < size) (items : List α) :
    (chunks size items).length = (items.length + (size - 1)) / size := by
  rw [chunks]
  by_cases more : 0 < items.length
  · rw [dif_pos ⟨positive, more⟩, List.length_cons, length_chunks positive, List.length_drop]
    by_cases full : size ≤ items.length
    · rw [← Nat.add_div_right _ positive]
      congr 1
      omega
    · rw [Nat.sub_eq_zero_of_le (Nat.le_of_not_le full), Nat.div_eq_of_lt (by omega)]
      symm
      apply Nat.div_eq_of_lt_le <;> omega
  · rw [dif_neg (fun some => more some.2), Nat.div_eq_of_lt (by omega)]
    rfl
termination_by items.length
decreasing_by
  simp only [List.length_drop]
  omega

theorem chunks_flatten {size : Nat} (positive : 0 < size) {pieces : List (List α)}
    (sizes : ∀ piece ∈ pieces, piece.length = size) : chunks size pieces.flatten = pieces := by
  induction pieces with
  | nil => rw [List.flatten_nil, chunks, dif_neg (fun some => Nat.lt_irrefl 0 some.2)]
  | cons piece rest ih =>
    have first := sizes piece List.mem_cons_self
    have later := ih fun other member => sizes other (List.mem_cons_of_mem _ member)
    have nonempty : 0 < (piece ++ rest.flatten).length := by
      rw [List.length_append]
      omega
    rw [List.flatten_cons, chunks, dif_pos ⟨positive, nonempty⟩, List.take_left' first, List.drop_left' first, later]

/-- An array of fixed length. Every value has the length its type gives. -/
structure Buffer (α : Type u) (size : Nat) where
  elements : List α
  sized : elements.length = size
deriving DecidableEq

namespace Buffer
variable {size : Nat}

@[ext] theorem ext {first last : Buffer α size} (same : first.elements = last.elements) : first = last := by
  cases first
  cases last
  cases same
  rfl

def fill (size : Nat) (value : α) : Buffer α size := ⟨List.replicate size value, List.length_replicate⟩

def get (buffer : Buffer α size) (index : Fin size) : α := buffer.elements.get (index.cast buffer.sized.symm)

def set (buffer : Buffer α size) (index : Nat) (value : α) : Buffer α size :=
  ⟨buffer.elements.set index value, by rw [List.length_set, buffer.sized]⟩

theorem get?_eq (buffer : Buffer α size) (index : Fin size) : buffer.elements[index.val]? = some (buffer.get index) :=
  List.getElem?_eq_getElem _

theorem get_set_self (buffer : Buffer α size) (index : Fin size) (value : α) : (buffer.set index value).get index = value :=
  List.getElem_set_self _

theorem get_set_other (buffer : Buffer α size) {index other : Fin size} (value : α) (different : other ≠ index) :
    (buffer.set index value).get other = buffer.get other :=
  List.getElem_set_ne (fun same => different (Fin.ext same.symm)) _

def write (buffer : Buffer α size) (offset : Nat) (data : List α) (fits : offset + data.length ≤ size) :
    Buffer α size :=
  ⟨overwrite buffer.elements offset data, (length_overwrite (buffer.sized.symm ▸ fits)).trans buffer.sized⟩

/-- Copies `data` into the elements from `offset` on; data that does not fit is a panic. -/
def copy (buffer : Buffer α size) (offset : Nat) (data : List α) : Checked (Buffer α size) :=
  if fits : offset + data.length ≤ size then some (buffer.write offset data fits) else none

theorem copy_eq (buffer : Buffer α size) {offset : Nat} {data : List α} (fits : offset + data.length ≤ size) :
    ∃ copied, buffer.copy offset data = some copied ∧ copied.elements = overwrite buffer.elements offset data :=
  ⟨_, dif_pos fits, rfl⟩

theorem copy_elements {buffer copied : Buffer α size} {offset : Nat} {data : List α}
    (done : buffer.copy offset data = some copied) :
    offset + data.length ≤ size ∧ copied.elements = overwrite buffer.elements offset data := by
  unfold copy at done
  split at done
  next fits => exact ⟨fits, by cases done; rfl⟩
  next => cases done

/-- Data copied to the front of a new array is read back from there. -/
theorem copy_fill (value : α) {data : List α} (fits : data.length ≤ size) :
    ∃ copied, (fill size value).copy 0 data = some copied ∧ slice copied.elements 0 data.length = some data := by
  obtain ⟨copied, done, elements⟩ := (fill size value).copy_eq ((Nat.zero_add data.length).symm ▸ fits)
  refine ⟨copied, done, ?_⟩
  rw [slice_front (copied.sized.symm ▸ fits), elements, take_overwrite_zero]

theorem copy_extends (buffer : Buffer α size) (front data : List α) (fits : front.length + data.length ≤ size)
    (held : buffer.elements.take front.length = front) :
    ∃ copied, buffer.copy front.length data = some copied ∧
      copied.elements.take (front ++ data).length = front ++ data := by
  obtain ⟨copied, done, elements⟩ := buffer.copy_eq fits
  refine ⟨copied, done, ?_⟩
  rw [elements, List.length_append, take_overwrite (by rw [buffer.sized]; omega), held]

theorem set_extends (buffer : Buffer α size) (front : List α) (value : α) (fits : front.length < size)
    (held : buffer.elements.take front.length = front) :
    (buffer.set front.length value).elements.take (front ++ [value]).length = front ++ [value] := by
  have inside : front.length < buffer.elements.length := buffer.sized.symm ▸ fits
  have stored : overwrite (buffer.elements.set front.length value) (front.length + 1) [] =
      overwrite buffer.elements front.length [value] := overwrite_set value inside
  rw [overwrite_nil] at stored
  change (buffer.elements.set front.length value).take _ = _
  rw [stored, List.length_append, take_overwrite (Nat.le_of_lt inside), held]

end Buffer
end Slices

import Mathlib.Data.List.Basic

namespace Streams

universe u

variable {α : Type u} {size : Nat} {ended : Bool} {buffer stream : List α} {x : α}

/-- The batches into which a buffer is emptied that every item of a stream joins: one whenever it
    holds `size` items and, if the stream comes to its end, one of what is left over. -/
def flushed (size : Nat) (ended : Bool) (buffer : List α) : List α → List (List α)
  | [] => if ended = true ∧ buffer ≠ [] then [buffer] else []
  | x :: rest =>
    if size ≤ (buffer ++ [x]).length then (buffer ++ [x]) :: flushed size ended [] rest
    else flushed size ended (buffer ++ [x]) rest

theorem flushed_full (rest : List α) (full : size ≤ (buffer ++ [x]).length) :
    flushed size ended buffer (x :: rest) = (buffer ++ [x]) :: flushed size ended [] rest := by
  rw [flushed, if_pos full]

theorem flushed_room (rest : List α) (room : ¬ size ≤ (buffer ++ [x]).length) :
    flushed size ended buffer (x :: rest) = flushed size ended (buffer ++ [x]) rest := by
  rw [flushed, if_neg room]

theorem flushed_ended (size : Nat) (buffer stream : List α) :
    (flushed size true buffer stream).flatten = buffer ++ stream := by
  induction stream generalizing buffer with
  | nil =>
    unfold flushed
    split
    · simp
    · rename_i none
      simp only [true_and, not_not] at none
      simp [none]
  | cons x rest ih =>
    by_cases full : size ≤ (buffer ++ [x]).length
    · rw [flushed_full rest full, List.flatten_cons, ih]
      simp
    · rw [flushed_room rest full, ih]
      simp

/-- A stream that breaks off has lost what did not fill a batch. -/
theorem flushed_broken (room : buffer.length < size) :
    (flushed size false buffer stream).flatten =
      (buffer ++ stream).take (size * ((buffer ++ stream).length / size)) := by
  induction stream generalizing buffer with
  | nil => simp [flushed, Nat.div_eq_of_lt room]
  | cons x rest ih =>
    rw [List.append_cons]
    have longer : (buffer ++ [x]).length = buffer.length + 1 := by simp
    by_cases full : size ≤ (buffer ++ [x]).length
    · have exactly : (buffer ++ [x]).length = size := by omega
      have positive : 0 < size := by omega
      have more : size * ((size + rest.length) / size) = size + size * (rest.length / size) := by
        rw [Nat.add_div_left _ positive, Nat.mul_succ, Nat.add_comm]
      rw [flushed_full rest full, List.flatten_cons, @ih [] positive, List.nil_append,
        @List.length_append _ _ rest, exactly, more, ← exactly, List.take_length_add_append]
    · rw [flushed_room rest full]
      exact ih (by omega)

theorem flushed_front (room : buffer.length < size) :
    (flushed size ended buffer stream).flatten <+: buffer ++ stream := by
  cases ended with
  | true =>
    have all := flushed_ended size buffer stream
    exact ⟨[], by rw [all, List.append_nil]⟩
  | false =>
    rw [flushed_broken room]
    exact List.take_prefix _ _

theorem flushed_length (room : buffer.length < size) :
    (∀ batch ∈ (flushed size ended buffer stream).dropLast, batch.length = size) ∧
      ∀ batch ∈ flushed size ended buffer stream, 1 ≤ batch.length ∧ batch.length ≤ size := by
  induction stream generalizing buffer with
  | nil =>
    unfold flushed
    split
    · rename_i last
      have nonempty := List.length_pos_iff.mpr last.2
      simp only [List.dropLast_singleton, List.not_mem_nil, false_imp_iff, implies_true,
        List.mem_singleton, forall_eq, true_and]
      omega
    · simp
  | cons x rest ih =>
    have longer : (buffer ++ [x]).length = buffer.length + 1 := by simp
    by_cases full : size ≤ (buffer ++ [x]).length
    · obtain ⟨others, bounds⟩ := @ih [] (by simp; omega)
      rw [flushed_full rest full]
      refine ⟨?_, List.forall_mem_cons.mpr ⟨by omega, bounds⟩⟩
      by_cases last : flushed size ended [] rest = []
      · simp [last]
      · rw [List.dropLast_cons_of_ne_nil last]
        exact List.forall_mem_cons.mpr ⟨by omega, others⟩
    · rw [flushed_room rest full]
      exact ih (by omega)

theorem flushed_fill {items : List α} (rest : List α) (nonempty : items ≠ [])
    (fills : (buffer ++ items).length = size) :
    flushed size ended buffer (items ++ rest) =
      (buffer ++ items) :: flushed size ended [] rest := by
  induction items generalizing buffer with
  | nil => exact absurd rfl nonempty
  | cons x items ih =>
    rw [List.append_cons] at fills
    by_cases last : items = []
    · subst last
      rw [List.append_nil] at fills
      exact flushed_full rest (by omega)
    · have more := List.length_pos_iff.mpr last
      rw [List.length_append] at fills
      rw [List.cons_append, flushed_room _ (by omega), ih last (by rwa [List.length_append]),
        ← List.append_cons]

theorem flushed_short (short : (buffer ++ stream).length < size) :
    flushed size false buffer stream = [] := by
  induction stream generalizing buffer with
  | nil => simp [flushed]
  | cons x rest ih =>
    rw [List.append_cons] at short
    have longer := @List.length_append _ (buffer ++ [x]) rest
    rw [flushed_room rest (by omega)]
    exact ih short

theorem flushed_flatten (positive : 0 < size) {batches : List (List α)}
    (uniform : ∀ batch ∈ batches, batch.length = size) {left : List α}
    (short : left.length < size) :
    flushed size false [] (batches.flatten ++ left) = batches := by
  induction batches with
  | nil => exact flushed_short short
  | cons batch rest ih =>
    obtain ⟨first, others⟩ := List.forall_mem_cons.mp uniform
    have nonempty : batch ≠ [] := List.length_pos_iff.mp (by omega)
    rw [List.flatten_cons, List.append_assoc, flushed_fill _ nonempty (by simpa using first),
      ih others, List.nil_append]

end Streams

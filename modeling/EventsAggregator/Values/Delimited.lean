import Mathlib.Data.List.Basic

namespace Delimited

universe u

variable {α : Type u} [DecidableEq α] {x : α}

/-- What joined fields are cut into at every delimiter, those inside a field among them. -/
def pieces (x : α) (fields : List (List α)) : List (List α) :=
  fields.flatMap (List.splitOn x)

theorem splitOn_joined {fields : List (List α)} (some : fields ≠ []) :
    ([x].intercalate fields).splitOn x = pieces x fields := by
  induction fields with
  | nil => exact absurd rfl some
  | cons field rest ih =>
    cases rest with
    | nil => simp [pieces]
    | cons second rest =>
      have tail := ih (List.cons_ne_nil second rest)
      rw [List.intercalate_cons_cons, List.append_assoc, List.singleton_append,
        List.splitOn_append_cons_self, tail]
      simp [pieces]

/-- Joining forgets where a field ends, and nothing else. -/
theorem joined_eq_iff {fields fields' : List (List α)} (some : fields ≠ [])
    (some' : fields' ≠ []) :
    [x].intercalate fields = [x].intercalate fields' ↔ pieces x fields = pieces x fields' := by
  rw [← splitOn_joined some, ← splitOn_joined some']
  constructor
  · intro same
    rw [same]
  · intro same
    have joined := congrArg [x].intercalate same
    rwa [List.intercalate_splitOn, List.intercalate_splitOn] at joined

theorem length_splitOn (field : List α) : (field.splitOn x).length = field.count x + 1 := by
  induction field with
  | nil => simp [List.splitOn_nil]
  | cons y rest ih =>
    rw [List.splitOn_cons_eq_if_modifyHead, List.count_cons]
    by_cases delimiter : y = x
    · simp [delimiter, ih]
    · simp [delimiter, ih]

theorem pieces_inj {fields fields' : List (List α)}
    (delimiters : fields.map (List.count x) = fields'.map (List.count x))
    (same : pieces x fields = pieces x fields') : fields = fields' := by
  induction fields generalizing fields' with
  | nil => simpa [eq_comm] using delimiters
  | cons field rest ih =>
    cases fields' with
    | nil => cases delimiters
    | cons field' rest' =>
      obtain ⟨first, others⟩ := List.cons.inj delimiters
      have lengths : (field.splitOn x).length = (field'.splitOn x).length := by
        rw [length_splitOn, length_splitOn, first]
      obtain ⟨front, back⟩ := List.append_inj same lengths
      have joined := congrArg [x].intercalate front
      rw [List.intercalate_splitOn, List.intercalate_splitOn] at joined
      rw [joined, ih others back]

end Delimited

import Mathlib.Data.List.Basic

namespace Relational

universe u

variable {α : Type u}

/-- The value is the revision with that number of a history that lists its newest value first. -/
def Revision (history : List α) (number : Nat) (value : α) : Prop :=
  ∃ newer older, history = newer ++ value :: older ∧ older.length + 1 = number

theorem Revision.newest {history : List α} {value : α} (head : history.head? = some value) :
    Revision history history.length value := by
  cases history with
  | nil => cases head
  | cons first older =>
    cases head
    exact ⟨[], older, rfl, rfl⟩

theorem Revision.cons {history : List α} {number : Nat} {value : α}
    (revision : Revision history number value) (newest : α) :
    Revision (newest :: history) number value := by
  obtain ⟨newer, older, rfl, count⟩ := revision
  exact ⟨newest :: newer, older, rfl, count⟩

theorem Revision.le_length {history : List α} {number : Nat} {value : α}
    (revision : Revision history number value) : number ≤ history.length := by
  obtain ⟨newer, older, rfl, rfl⟩ := revision
  simp

theorem Revision.mem {history : List α} {number : Nat} {value : α}
    (revision : Revision history number value) : value ∈ history := by
  obtain ⟨newer, older, rfl, _⟩ := revision
  simp

theorem Revision.head {history : List α} {number : Nat} {value : α}
    (revision : Revision history number value) (newest : history.length ≤ number) :
    history.head? = some value := by
  obtain ⟨newer, older, rfl, rfl⟩ := revision
  cases newer with
  | nil => rfl
  | cons first newer =>
    simp only [List.cons_append, List.length_cons, List.length_append] at newest
    omega

end Relational

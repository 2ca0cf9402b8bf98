import EventsAggregator.Relational.Upserts
import Mathlib.Order.Defs.PartialOrder

namespace Relational.Table

universe u v w

variable {κ : Type u} {ρ : Type v} {τ : Type w} {key : ρ → κ} [DecidableEq κ] [Preorder τ]

/-- Every row is still there, in the version that it had or in a later one. -/
def Advances (version : ρ → τ) (table table' : Table key) : Prop :=
  ∀ k row, table.find? k = some row →
    ∃ row', table'.find? k = some row' ∧ version row ≤ version row'

variable {version : ρ → τ} {table table' table'' : Table key} {rows : List ρ}

theorem Advances.refl (table : Table key) : Advances version table table :=
  fun _ row found => ⟨row, found, le_refl _⟩

theorem Advances.trans (first : Advances version table table')
    (second : Advances version table' table'') : Advances version table table'' := by
  intro k row found
  obtain ⟨row', found', later⟩ := first k row found
  obtain ⟨row'', found'', latest⟩ := second k row' found'
  exact ⟨row'', found'', le_trans later latest⟩

theorem find?_upserts_eq_some {k : κ} {row : ρ} (found : (table.upserts rows).find? k = some row) :
    row ∈ rows ∧ key row = k ∨ k ∉ rows.map key ∧ table.find? k = some row := by
  induction rows using List.reverseRecOn with
  | nil => exact Or.inr ⟨by simp, found⟩
  | append_singleton rows last ih =>
    rw [find?_upserts_concat] at found
    split at found
    next here =>
      cases found
      exact Or.inl ⟨by simp, here⟩
    next other =>
      rcases ih found with ⟨member, here⟩ | ⟨absent, before⟩
      · exact Or.inl ⟨List.mem_append_left _ member, here⟩
      · exact Or.inr ⟨fun inside => absent (mem_map_concat inside other), before⟩

theorem advances_upserts
    (later : ∀ row ∈ rows, ∀ old, table.find? (key row) = some old → version old ≤ version row) :
    Advances version table (table.upserts rows) := by
  intro k old found
  by_cases inside : k ∈ rows.map key
  · have present := (mem_keys _ k).mp (table.mem_keys_upserts inside)
    obtain ⟨row, stored⟩ := Option.ne_none_iff_exists'.mp present
    refine ⟨row, stored, ?_⟩
    rcases find?_upserts_eq_some stored with ⟨member, rfl⟩ | ⟨absent, _⟩
    · exact later row member old found
    · exact absurd inside absent
  · exact ⟨old, (find?_upserts_of_not_mem table inside).trans found, le_refl _⟩

end Relational.Table

import EventsAggregator.Relational.Table
import Mathlib.Logic.Function.Basic

namespace Relational

universe u v w x

variable {κ : Type u} {ρ : Type v} {κ' : Type w} {ρ' : Type x}
  {key : ρ → κ} {key' : ρ' → κ'} [DecidableEq κ] [DecidableEq κ']

/-- Every row of one table has a row of its own in the other: no two share one. -/
def Matched (table : Table key) (other : Table key') (related : ρ → ρ' → Prop) : Prop :=
  ∃ partner : κ → κ',
    (∀ r r', r ∈ table.rows → r' ∈ table.rows → partner (key r) = partner (key r') → r = r') ∧
      ∀ r ∈ table.rows, ∃ row, other.find? (partner (key r)) = some row ∧ related r row

variable {table table' : Table key} {other other' : Table key'} {related : ρ → ρ' → Prop}

omit [DecidableEq κ] in
theorem Matched.mono (matched : Matched table other related)
    (kept : ∀ k r row, r ∈ table.rows → other.find? k = some row → related r row →
      ∃ row', other'.find? k = some row' ∧ related r row') : Matched table other' related := by
  obtain ⟨partner, injective, partners⟩ := matched
  refine ⟨partner, injective, fun r member => ?_⟩
  obtain ⟨row, found, here⟩ := partners r member
  exact kept _ r row member found here

theorem Matched.erase (matched : Matched table other related) (k : κ) :
    Matched (table.erase k) other related := by
  obtain ⟨partner, injective, partners⟩ := matched
  have left : ∀ r, r ∈ (table.erase k).rows → r ∈ table.rows := fun r member =>
    ((table.mem_erase k r).mp member).1
  exact ⟨partner, fun r r' member member' => injective r r' (left r member) (left r' member'),
    fun r member => partners r (left r member)⟩

def Preceded {α : Type u} (asks : α → Prop) (answers : α → α → Prop) (rows : List α) : Prop :=
  ∀ i row, rows[i]? = some row → asks row → ∃ earlier ∈ rows.take i, answers row earlier

section Preceded

variable {α : Type u} {asks : α → Prop} {answers : α → α → Prop} {rows : List α}

theorem Preceded.map (preceded : Preceded asks answers rows) {f : α → α}
    (asked : ∀ row, asks (f row) → asks row)
    (answered : ∀ row earlier, answers row earlier → answers (f row) (f earlier)) :
    Preceded asks answers (rows.map f) := by
  intro i row found asks
  rw [List.getElem?_map] at found
  obtain ⟨before, there, rfl⟩ := Option.map_eq_some_iff.mp found
  obtain ⟨earlier, member, here⟩ := preceded i before there (asked before asks)
  rw [← List.map_take]
  exact ⟨f earlier, List.mem_map_of_mem member, answered before earlier here⟩

end Preceded

end Relational

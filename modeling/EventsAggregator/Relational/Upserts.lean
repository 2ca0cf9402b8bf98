import EventsAggregator.Relational.Table
import Mathlib.Data.List.Induction

namespace Relational

universe u v

namespace Table

variable {κ : Type u} {ρ : Type v} {key : ρ → κ} [DecidableEq κ]

def upserts (table : Table key) (rows : List ρ) : Table key := rows.foldl Table.upsert table

theorem upserts_append (table : Table key) (rows rows' : List ρ) :
    table.upserts (rows ++ rows') = (table.upserts rows).upserts rows' :=
  List.foldl_append ..

def keys (table : Table key) : List κ := table.rows.map key

theorem ext_find? {table table' : Table key} (sameKeys : table.keys = table'.keys)
    (sameRows : ∀ k, table.find? k = table'.find? k) : table = table' := by
  have length : table.rows.length = table'.rows.length := by
    simpa [keys] using congrArg List.length sameKeys
  ext1
  apply List.ext_getElem length
  intro i inside inside'
  have here : key table.rows[i] = key table'.rows[i] := by
    have at_i : table.keys[i]? = table'.keys[i]? := by rw [sameKeys]
    simpa [keys, inside, inside'] using at_i
  have found := (table.find?_eq_some (key table.rows[i]) table.rows[i]).mpr
    ⟨List.getElem_mem inside, rfl⟩
  have found' := (table'.find?_eq_some (key table.rows[i]) table'.rows[i]).mpr
    ⟨List.getElem_mem inside', here.symm⟩
  rw [sameRows, found'] at found
  exact (Option.some.inj found).symm

theorem mem_keys (table : Table key) (k : κ) : k ∈ table.keys ↔ table.find? k ≠ none := by
  rw [Ne, find?_eq_none]
  simp [keys]

theorem keys_upsert (table : Table key) (r : ρ) :
    (table.upsert r).keys =
      if key r ∈ table.keys then table.keys else table.keys ++ [key r] := by
  unfold upsert
  by_cases present : key r ∈ table.keys
  · have refused : table.insert? r = none := dif_pos present
    rw [refused, if_pos present, Option.getD_none]
    exact table.map_key_change fun _ _ => rfl
  · have inserted : table.insert? r = some ⟨table.rows ++ [r], _⟩ := dif_neg present
    rw [inserted, if_neg present, Option.getD_some]
    simp [keys]

theorem keys_upserts_congr {table table' : Table key} {rows rows' : List ρ}
    (sameKeys : table.keys = table'.keys) (same : rows.map key = rows'.map key) :
    (table.upserts rows).keys = (table'.upserts rows').keys := by
  induction rows generalizing table table' rows' with
  | nil =>
    rw [List.map_nil, eq_comm, List.map_eq_nil_iff] at same
    rw [same]
    exact sameKeys
  | cons r rest ih =>
    cases rows' with
    | nil => cases same
    | cons r' rest' =>
      obtain ⟨first, others⟩ := List.cons.inj same
      apply ih _ others
      rw [keys_upsert, keys_upsert, sameKeys, first]

theorem keys_upserts_present {table : Table key} {rows : List ρ}
    (present : ∀ r ∈ rows, key r ∈ table.keys) : (table.upserts rows).keys = table.keys := by
  induction rows generalizing table with
  | nil => rfl
  | cons r rest ih =>
    obtain ⟨first, others⟩ := List.forall_mem_cons.mp present
    have same : (table.upsert r).keys = table.keys := by rw [keys_upsert, if_pos first]
    have through : ∀ r' ∈ rest, key r' ∈ (table.upsert r).keys := by rwa [same]
    exact (ih through).trans same

theorem find?_upserts_concat (table : Table key) (rows : List ρ) (last : ρ) (k : κ) :
    (table.upserts (rows ++ [last])).find? k =
      if key last = k then some last else (table.upserts rows).find? k := by
  rw [upserts_append]
  exact find?_upsert _ _ _

omit [DecidableEq κ] in
theorem mem_map_concat {rows : List ρ} {last : ρ} {k : κ} (inside : k ∈ (rows ++ [last]).map key)
    (other : key last ≠ k) : k ∈ rows.map key := by
  rw [List.map_append, List.mem_append] at inside
  rcases inside with inside | same
  · exact inside
  · exact absurd (List.mem_singleton.mp same).symm other

theorem find?_upserts_of_mem (table table' : Table key) {rows : List ρ} {k : κ}
    (inside : k ∈ rows.map key) : (table.upserts rows).find? k = (table'.upserts rows).find? k := by
  induction rows using List.reverseRecOn with
  | nil => cases inside
  | append_singleton rows last ih =>
    rw [find?_upserts_concat, find?_upserts_concat]
    by_cases here : key last = k
    · rw [if_pos here, if_pos here]
    · rw [if_neg here, if_neg here]
      exact ih (mem_map_concat inside here)

theorem find?_upserts_of_not_mem (table : Table key) {rows : List ρ} {k : κ}
    (outside : k ∉ rows.map key) : (table.upserts rows).find? k = table.find? k := by
  induction rows using List.reverseRecOn with
  | nil => rfl
  | append_singleton rows last ih =>
    rw [List.map_append, List.mem_append, not_or] at outside
    obtain ⟨before, other⟩ := outside
    rw [find?_upserts_concat, if_neg, ih before]
    intro here
    exact other (List.mem_singleton.mpr here.symm)

theorem mem_keys_upserts (table : Table key) {rows : List ρ} {k : κ} (inside : k ∈ rows.map key) :
    k ∈ (table.upserts rows).keys := by
  induction rows using List.reverseRecOn with
  | nil => cases inside
  | append_singleton rows last ih =>
    rw [mem_keys, find?_upserts_concat]
    by_cases here : key last = k
    · simp [here]
    · rw [if_neg here, ← mem_keys]
      exact ih (mem_map_concat inside here)

/-- Upserts overwrite earlier ones of the same keys without a trace. -/
theorem upserts_absorb (table : Table key) {rows rows' : List ρ}
    (same : rows.map key = rows'.map key) :
    (table.upserts rows).upserts rows' = table.upserts rows' := by
  apply ext_find?
  · have present : ∀ r ∈ rows', key r ∈ (table.upserts rows).keys := fun r inside =>
      table.mem_keys_upserts (same ▸ List.mem_map_of_mem inside)
    rw [keys_upserts_present present]
    exact keys_upserts_congr rfl same
  · intro k
    by_cases inside : k ∈ rows'.map key
    · exact find?_upserts_of_mem _ _ inside
    · rw [find?_upserts_of_not_mem _ inside, find?_upserts_of_not_mem _ (same ▸ inside),
        find?_upserts_of_not_mem _ inside]

end Table

end Relational

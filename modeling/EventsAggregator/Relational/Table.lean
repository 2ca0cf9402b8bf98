import Mathlib.Data.List.Nodup
import Mathlib.Data.List.Basic

namespace Relational

universe u v

/-- Rows in insertion order under a primary key: two rows with one key cannot be built. -/
@[ext]
structure Table {κ : Type u} {ρ : Type v} (key : ρ → κ) where
  rows : List ρ
  unique : (rows.map key).Nodup

namespace Table

variable {κ : Type u} {ρ : Type v} {key : ρ → κ} [DecidableEq κ]

def empty : Table key := ⟨[], by simp⟩

def find? (table : Table key) (k : κ) : Option ρ :=
  table.rows.find? (fun r => key r = k)

def insert? (table : Table key) (r : ρ) : Option (Table key) :=
  if fresh : key r ∈ table.rows.map key then none
  else some ⟨table.rows ++ [r], by
    rw [List.map_append, List.nodup_append]
    exact ⟨table.unique, by simp, by simpa using fun a member same => fresh (by
      simpa using ⟨a, member, same⟩)⟩⟩

def erase (table : Table key) (k : κ) : Table key :=
  ⟨table.rows.filter (fun r => key r ≠ k),
    table.unique.sublist (List.filter_sublist.map key)⟩

theorem map_key_change (table : Table key) {k : κ} {f : ρ → ρ}
    (keeps : ∀ r, key r = k → key (f r) = k) :
    (table.rows.map fun r => if key r = k then f r else r).map key = table.rows.map key := by
  rw [List.map_map]
  apply List.map_congr_left
  intro r _
  by_cases here : key r = k
  · simp [here, keeps r here]
  · simp [here]

def update (table : Table key) (k : κ) (f : ρ → ρ) (keeps : ∀ r, key r = k → key (f r) = k) :
    Table key :=
  ⟨table.rows.map (fun r => if key r = k then f r else r), by
    rw [table.map_key_change keeps]
    exact table.unique⟩

/-- `INSERT ... ON CONFLICT (key) DO UPDATE` of one row. -/
def upsert (table : Table key) (r : ρ) : Table key :=
  (table.insert? r).getD (table.update (key r) (fun _ => r) fun _ _ => rfl)

omit [DecidableEq κ] in
@[simp] theorem rows_empty : (empty : Table key).rows = [] := rfl

@[simp] theorem find?_empty (k : κ) : (empty : Table key).find? k = none := rfl

theorem find?_eq_none (table : Table key) (k : κ) :
    table.find? k = none ↔ ∀ r ∈ table.rows, key r ≠ k := by
  simp [find?]

omit [DecidableEq κ] in
theorem row_unique (table : Table key) {r r' : ρ} (member : r ∈ table.rows)
    (member' : r' ∈ table.rows) (same : key r = key r') : r = r' :=
  List.inj_on_of_nodup_map table.unique member member' same

theorem find?_isSome (table : Table key) (k : κ) :
    (table.find? k).isSome ↔ ∃ r ∈ table.rows, key r = k := by
  simp [find?]

theorem find?_eq_some (table : Table key) (k : κ) (r : ρ) :
    table.find? k = some r ↔ r ∈ table.rows ∧ key r = k := by
  constructor
  · intro found
    exact ⟨List.mem_of_find?_eq_some found, by simpa using List.find?_some found⟩
  · rintro ⟨member, rfl⟩
    obtain ⟨other, found⟩ := Option.isSome_iff_exists.mp
      ((table.find?_isSome (key r)).mpr ⟨r, member, rfl⟩)
    have same : key other = key r := by simpa using List.find?_some found
    rw [found, table.row_unique (List.mem_of_find?_eq_some found) member same]

theorem insert?_eq_some (table table' : Table key) (r : ρ) :
    table.insert? r = some table' ↔
      table.find? (key r) = none ∧ table'.rows = table.rows ++ [r] := by
  have absent : key r ∈ table.rows.map key ↔ table.find? (key r) ≠ none := by
    rw [Ne, find?_eq_none]
    simp
  unfold insert?
  by_cases fresh : key r ∈ table.rows.map key
  · simp [fresh, absent.mp fresh]
  · rw [dif_neg fresh]
    have none : table.find? (key r) = none := by simpa using (not_congr absent).mp fresh
    simp [none, Table.ext_iff, eq_comm]

theorem insert?_isSome (table : Table key) (r : ρ) :
    (table.insert? r).isSome = true ↔ table.find? (key r) = none := by
  rw [find?_eq_none]
  unfold insert?
  split
  · next taken =>
    simp only [Option.isSome_none, Bool.false_eq_true, false_iff]
    intro absent
    obtain ⟨row, member, same⟩ := List.mem_map.mp taken
    exact absent row member same
  · next free =>
    simp only [Option.isSome_some, true_iff]
    intro row member same
    exact free (List.mem_map.mpr ⟨row, member, same⟩)

theorem find?_inserted {table table' : Table key} {r : ρ} (inserted : table.insert? r = some table')
    (k : κ) : table'.find? k = if key r = k then some r else table.find? k := by
  obtain ⟨fresh, rows⟩ := (table.insert?_eq_some table' r).mp inserted
  unfold find? at *
  rw [rows, List.find?_append]
  by_cases here : key r = k
  · subst here
    simp [fresh]
  · simp [here]

theorem find?_kept {table table' : Table key} {r r' : ρ} {k : κ}
    (inserted : table.insert? r = some table') (found : table.find? k = some r') :
    table'.find? k = some r' := by
  obtain ⟨fresh, _⟩ := (table.insert?_eq_some table' r).mp inserted
  rw [find?_inserted inserted, if_neg, found]
  rintro rfl
  rw [fresh] at found
  cases found

theorem mem_erase (table : Table key) (k : κ) (r : ρ) :
    r ∈ (table.erase k).rows ↔ r ∈ table.rows ∧ key r ≠ k := by
  simp [erase]

theorem erase_absent (table : Table key) {k : κ} (absent : table.find? k = none) :
    table.erase k = table := by
  ext1
  exact List.filter_eq_self.mpr (by simpa using (table.find?_eq_none k).mp absent)

theorem find?_erase (table : Table key) (k : κ) : (table.erase k).find? k = none := by
  rw [find?_eq_none]
  intro r member
  exact ((table.mem_erase k r).mp member).2

theorem find?_erase_of_ne (table : Table key) {k k' : κ} (other : k' ≠ k) :
    (table.erase k).find? k' = table.find? k' := by
  cases found : table.find? k' with
  | none =>
    rw [find?_eq_none] at found ⊢
    intro r member
    exact found r ((table.mem_erase k r).mp member).1
  | some r =>
    rw [find?_eq_some] at found ⊢
    obtain ⟨member, rfl⟩ := found
    exact ⟨(table.mem_erase k r).mpr ⟨member, other⟩, rfl⟩

theorem length_erase (table : Table key) {k : κ} (present : (table.find? k).isSome) :
    (table.erase k).rows.length + 1 = table.rows.length := by
  obtain ⟨r, member, rfl⟩ := (table.find?_isSome k).mp present
  have split : (table.rows.filter fun r' => key r' ≠ key r).length +
      (table.rows.filter fun r' => key r' = key r).length = table.rows.length := by
    have := table.rows.length_eq_length_filter_add (fun r' => key r' = key r)
    simp only [ne_eq, decide_not] at *
    omega
  have one : (table.rows.filter fun r' => key r' = key r).length = 1 := by
    have count := List.count_eq_one_of_mem table.unique (List.mem_map_of_mem (f := key) member)
    rw [← count, List.count, List.countP_map, List.countP_eq_length_filter]
    rfl
  change (table.rows.filter fun r' => key r' ≠ key r).length + 1 = _
  omega

theorem find?_update (table : Table key) (k : κ) (f : ρ → ρ)
    (keeps : ∀ r, key r = k → key (f r) = k) (k' : κ) :
    (table.update k f keeps).find? k' =
      if k' = k then (table.find? k).map f else table.find? k' := by
  have sameKey : ((fun r => decide (key r = k')) ∘ fun r => if key r = k then f r else r) =
      fun r => decide (key r = k') := by
    funext r
    by_cases here : key r = k
    · simp [here, keeps r here]
    · simp [here]
  simp only [find?, update, List.find?_map, sameKey]
  by_cases same : k' = k
  · subst same
    rw [if_pos rfl]
    cases found : table.rows.find? (fun r => decide (key r = k')) with
    | none => rfl
    | some r =>
      have here : key r = k' := by simpa using List.find?_some found
      simp [here]
  · rw [if_neg same]
    cases found : table.rows.find? (fun r => decide (key r = k')) with
    | none => rfl
    | some r =>
      have here : key r = k' := by simpa using List.find?_some found
      simp [here, same]

theorem countP_inserted {table table' : Table key} {r : ρ} (p : ρ → Bool)
    (inserted : table.insert? r = some table') :
    table'.rows.countP p = table.rows.countP p + if p r then 1 else 0 := by
  rw [((table.insert?_eq_some table' r).mp inserted).2, List.countP_append, List.countP_singleton]

theorem countP_update (table : Table key) (k : κ) (f : ρ → ρ)
    (keeps : ∀ r, key r = k → key (f r) = k) (p : ρ → Bool) (same : ∀ r, p (f r) = p r) :
    (table.update k f keeps).rows.countP p = table.rows.countP p := by
  simp only [update, List.countP_map]
  apply List.countP_congr
  intro r _
  by_cases here : key r = k <;> simp [here, same]

theorem find?_upsert (table : Table key) (r : ρ) (k : κ) :
    (table.upsert r).find? k = if key r = k then some r else table.find? k := by
  unfold upsert
  cases inserted : table.insert? r with
  | some table' => exact find?_inserted inserted k
  | none =>
    have present : ∃ r', table.find? (key r) = some r' := by
      apply Option.ne_none_iff_exists'.mp
      intro absent
      rw [insert?, dif_neg] at inserted
      · cases inserted
      · simpa using (table.find?_eq_none _).mp absent
    obtain ⟨r', found⟩ := present
    rw [Option.getD_none, find?_update, found]
    by_cases same : key r = k
    · simp [same]
    · simp [same, Ne.symm same]

end Table

end Relational

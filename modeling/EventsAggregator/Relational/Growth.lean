import EventsAggregator.Relational.Paging
import Mathlib.Data.List.Perm.Subperm

namespace Relational

universe u v

variable {α : Type u} {β : Type v} [LinearOrder β] {key : α → β} {rows rows' l : List α}

def place (key : α → β) (rows : List α) (t : β) : Nat := rows.countP fun row => key row < t

theorem place_eq_count (t : β) : place key rows t = (rows.map key).countP (· < t) := by
  rw [List.countP_map]
  rfl

theorem place_le (distinct : (rows.map key).Nodup) (grows : rows.map key ⊆ rows'.map key) (t : β) :
    place key rows t ≤ place key rows' t := by
  rw [place_eq_count, place_eq_count]
  exact (distinct.subperm grows).countP_le _

theorem place_getElem (distinct : (rows.map key).Nodup) (ordered : Ordered key rows l) {j : Nat}
    (bound : j < l.length) : place key rows (key l[j]) = j := by
  rw [place, ← ordered.perm.countP_eq]
  have unique : (l.map key).Nodup := (ordered.perm.map key).nodup_iff.mpr distinct
  have closed := ordered.closed_lt (key l[j])
  have upTo : ¬ j < l.countP (fun row => key row < key l[j]) := by
    rw [← holds_iff_lt_countP closed (List.getElem?_eq_getElem bound)]
    simp
  apply Nat.le_antisymm (Nat.le_of_not_lt upTo)
  by_contra before
  rw [Nat.not_le] at before
  have inside : l.countP (fun row => key row < key l[j]) < l.length := by omega
  have reached := holds_iff_lt_countP closed (List.getElem?_eq_getElem inside)
  simp only [decide_eq_true_eq, lt_irrefl, iff_false, not_lt] at reached
  have earlier := List.pairwise_iff_getElem.mp ordered.sorted _ _
    (by simpa using inside) (by simpa using bound) before
  rw [List.getElem_map, List.getElem_map] at earlier
  have same := le_antisymm earlier reached
  have inside' : l.countP (fun row => key row < key l[j]) < (l.map key).length := by
    rwa [List.length_map]
  have bound' : j < (l.map key).length := by rwa [List.length_map]
  have here : (l.map key)[l.countP fun row => key row < key l[j]] = (l.map key)[j] := by
    rw [List.getElem_map, List.getElem_map]
    exact same
  have index := unique.getElem_inj_iff.mp here
  omega

theorem mem_take_iff (distinct : (rows.map key).Nodup) (ordered : Ordered key rows l) {row : α}
    (inside : row ∈ rows) (n : Nat) : row ∈ l.take n ↔ place key rows (key row) < n := by
  constructor
  · intro member
    obtain ⟨j, bound, rfl⟩ := List.mem_take_iff_getElem.mp member
    rw [place_getElem distinct ordered]
    omega
  · intro before
    obtain ⟨j, bound, rfl⟩ := List.getElem_of_mem (ordered.perm.symm.subset inside)
    rw [place_getElem distinct ordered] at before
    exact List.mem_take_iff_getElem.mpr ⟨j, by omega, rfl⟩

theorem mem_page_iff (distinct : (rows.map key).Nodup) (ordered : Ordered key rows l) {row : α}
    (inside : row ∈ rows) (size i : Nat) : row ∈ page size l i ↔
      i * size ≤ place key rows (key row) ∧ place key rows (key row) < (i + 1) * size := by
  have unique : l.Nodup :=
    List.Nodup.of_map key ((ordered.perm.map key).nodup_iff.mpr distinct)
  have cut := unique.sublist (List.take_sublist ((i + 1) * size) l)
  rw [← take_page] at cut
  have apart := (List.nodup_append.mp cut).2.2
  rw [← Nat.not_lt, ← mem_take_iff distinct ordered inside,
    ← mem_take_iff distinct ordered inside, ← take_page, List.mem_append]
  constructor
  · intro here
    exact ⟨fun before => apart row before row here rfl, Or.inr here⟩
  · rintro ⟨late, before | here⟩
    · exact absurd before late
    · exact here

theorem exists_new (distinct : (rows'.map key).Nodup) {row : α} (inside : row ∈ rows)
    (behind : rows.length ≤ place key rows' (key row)) :
    ∃ row' ∈ rows', key row' < key row ∧ key row' ∉ rows.map key := by
  by_contra none
  have old : ∀ row' ∈ rows', key row' < key row → key row' ∈ rows.map key := by
    intro row' member earlier
    by_contra absent
    exact none ⟨row', member, earlier, absent⟩
  have sub : (rows'.map key).filter (· < key row) ⊆ (rows.map key).erase (key row) := by
    intro t member
    obtain ⟨there, earlier⟩ := List.mem_filter.mp member
    obtain ⟨row', member', rfl⟩ := List.mem_map.mp there
    have earlier : key row' < key row := by simpa using earlier
    exact (List.mem_erase_of_ne (ne_of_lt earlier)).mpr (old row' member' earlier)
  have fewer := ((distinct.filter _).subperm sub).length_le
  rw [← List.countP_eq_length_filter, ← place_eq_count,
    List.length_erase_of_mem (List.mem_map_of_mem inside), List.length_map] at fewer
  have some := List.length_pos_of_mem inside
  omega

end Relational

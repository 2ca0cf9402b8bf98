import Mathlib.Data.List.Sort

namespace Relational

universe u v

variable {α : Type u} {β : Type v} [LinearOrder β] {key : α → β} {rows l l' : List α}

/-- `ORDER BY key`: rows with one key come in any order. -/
structure Ordered (key : α → β) (rows sorted : List α) : Prop where
  perm : sorted.Perm rows
  sorted : (sorted.map key).Pairwise (· ≤ ·)

def page (size : Nat) (sorted : List α) (i : Nat) : List α :=
  (sorted.drop (i * size)).take size

/-- The first `n` pages, when the query for each of them sees an order of its own. -/
def walk (size : Nat) (orders : Nat → List α) (n : Nat) : List α :=
  (List.range n).flatMap fun i => page size (orders i) i

/-- Rows with one key lie on both sides of the boundary behind the first `n` rows. -/
def Tied (key : α → β) (rows : List α) (n : Nat) : Prop :=
  ∃ row ∈ rows, rows.countP (fun other => key other < key row) < n ∧
    n < rows.countP (fun other => key other ≤ key row)

instance (n : Nat) : Decidable (Tied key rows n) :=
  inferInstanceAs (Decidable (∃ row ∈ rows, _))

theorem exists_ordered (key : α → β) (rows : List α) : ∃ sorted, Ordered key rows sorted := by
  let r := fun row later : α => key row ≤ key later
  have : Std.Total r := ⟨fun row later => le_total (key row) (key later)⟩
  have : IsTrans α r := ⟨fun _ _ _ first second => le_trans first second⟩
  exact ⟨rows.insertionSort r, rows.perm_insertionSort r,
    List.pairwise_map.mpr (rows.pairwise_insertionSort r)⟩

section Prefix

variable {p : α → Bool}

theorem holds_iff_lt_countP (closed : l.Pairwise fun a b => p b = true → p a = true) {i : Nat}
    {a : α} (found : l[i]? = some a) : p a = true ↔ i < l.countP p := by
  induction l generalizing i with
  | nil => cases found
  | cons x rest ih =>
    obtain ⟨later, closed⟩ := List.pairwise_cons.mp closed
    by_cases here : p x = true
    · rw [List.countP_cons_of_pos here]
      cases i with
      | zero =>
        cases found
        simp [here]
      | succ i =>
        rw [ih closed (by simpa using found)]
        omega
    · have none : (x :: rest).countP p = 0 := by
        rw [List.countP_eq_zero]
        intro b inside
        rcases List.mem_cons.mp inside with rfl | inside
        · exact here
        · exact fun holds => here (later b inside holds)
      have false : ¬ p a = true := by
        rw [List.countP_eq_zero] at none
        exact none a (List.mem_of_getElem? found)
      rw [none]
      simp [false]

theorem filter_eq_take (closed : l.Pairwise fun a b => p b = true → p a = true) :
    l.filter p = l.take (l.countP p) := by
  induction l with
  | nil => rfl
  | cons x rest ih =>
    obtain ⟨later, closed⟩ := List.pairwise_cons.mp closed
    by_cases here : p x = true
    · rw [List.filter_cons_of_pos here, List.countP_cons_of_pos here, ih closed,
        List.take_succ_cons]
    · have none : rest.countP p = 0 := by
        rw [List.countP_eq_zero]
        exact fun b inside holds => here (later b inside holds)
      rw [List.filter_cons_of_neg here, List.countP_cons_of_neg here, ih closed, none]
      simp

end Prefix

theorem Ordered.closed_lt (ordered : Ordered key rows l) (t : β) :
    l.Pairwise fun a b => decide (key b < t) = true → decide (key a < t) = true := by
  apply (List.pairwise_map.mp ordered.sorted).imp
  intro a b earlier later
  simp only [decide_eq_true_eq] at *
  exact lt_of_le_of_lt earlier later

theorem Ordered.closed_le (ordered : Ordered key rows l) (t : β) :
    l.Pairwise fun a b => decide (key b ≤ t) = true → decide (key a ≤ t) = true := by
  apply (List.pairwise_map.mp ordered.sorted).imp
  intro a b earlier later
  simp only [decide_eq_true_eq] at *
  exact le_trans earlier later

theorem take_perm {n : Nat} (untied : ¬ Tied key rows n) (ordered : Ordered key rows l)
    (ordered' : Ordered key rows l') : (l.take n).Perm (l'.take n) := by
  have perm : l.Perm l' := ordered.perm.trans ordered'.perm.symm
  by_cases short : l.length ≤ n
  · rwa [List.take_of_length_le short, List.take_of_length_le (perm.length_eq ▸ short)]
  · cases n with
    | zero => simp
    | succ n =>
      have bound : n < l.length := by omega
      have found : l[n]? = some l[n] := List.getElem?_eq_getElem bound
      let t := key l[n]
      have below := holds_iff_lt_countP (ordered.closed_lt t) found
      have reached := holds_iff_lt_countP (ordered.closed_le t) found
      have upTo : l.countP (fun a => key a ≤ t) = n + 1 := by
        have above : ¬ n + 1 < l.countP (fun a => key a ≤ t) := by
          intro beyond
          refine untied ⟨l[n], ordered.perm.subset (List.getElem_mem bound), ?_, ?_⟩
          · rw [← ordered.perm.countP_eq]
            simp only [t, decide_eq_true_eq, lt_irrefl, false_iff] at below
            omega
          · rwa [← ordered.perm.countP_eq]
        simp only [t, decide_eq_true_eq, le_refl, true_iff] at reached
        simp only [t] at above ⊢
        omega
      have first := filter_eq_take (ordered.closed_le t)
      have second := filter_eq_take (ordered'.closed_le t)
      rw [← perm.countP_eq, upTo] at second
      rw [upTo] at first
      rw [← first, ← second]
      exact perm.filter _

variable {size n : Nat} {orders : Nat → List α}

theorem walk_succ : walk size orders (n + 1) = walk size orders n ++ page size (orders n) n := by
  simp [walk, List.range_succ]

theorem take_page : l.take (n * size) ++ page size l n = l.take ((n + 1) * size) := by
  rw [page, ← List.take_add, Nat.succ_mul]

theorem walk_same (same : ∀ i < n, orders i = l) : walk size orders n = l.take (n * size) := by
  induction n with
  | zero => simp [walk]
  | succ n ih =>
    rw [walk_succ, ih fun i before => same i (by omega), same n (by omega), take_page]

theorem walk_front {m : Nat} (before : m ≤ n) :
    walk size orders m <+: walk size orders n := by
  induction n with
  | zero =>
    obtain rfl := Nat.le_zero.mp before
    exact List.prefix_rfl
  | succ n ih =>
    by_cases last : m = n + 1
    · subst last
      exact List.prefix_rfl
    · rw [walk_succ]
      exact (ih (by omega)).trans (List.prefix_append _ _)

theorem walk_take (untied : ∀ i, ¬ Tied key rows (i * size))
    (ordered : ∀ i < n, Ordered key rows (orders i)) (whole : Ordered key rows l) :
    (walk size orders n).Perm (l.take (n * size)) := by
  induction n generalizing l with
  | zero => simp [walk]
  | succ n ih =>
    have last := ordered n (by omega)
    have before := ih (fun i inside => ordered i (by omega)) last
    rw [walk_succ]
    calc walk size orders n ++ page size (orders n) n
      _ |>.Perm ((orders n).take (n * size) ++ page size (orders n) n) := before.append_right _
      _ = (orders n).take ((n + 1) * size) := take_page
      _ |>.Perm (l.take ((n + 1) * size)) := take_perm (untied (n + 1)) last whole

theorem walk_perm (untied : ∀ i, ¬ Tied key rows (i * size)) (all : rows.length ≤ n * size)
    (ordered : ∀ i < n, Ordered key rows (orders i)) : (walk size orders n).Perm rows := by
  obtain ⟨l, whole⟩ := exists_ordered key rows
  have walked := walk_take untied ordered whole
  rw [List.take_of_length_le (by rw [whole.perm.length_eq]; exact all)] at walked
  exact walked.trans whole.perm

/-- Two orders that differ in one exchange across the boundary. -/
theorem exists_exchange (tied : Tied key rows n) : ∃ front a b back, front.length + 1 = n ∧
    Ordered key rows (front ++ a :: b :: back) ∧ Ordered key rows (front ++ b :: a :: back) := by
  obtain ⟨row, _, below, above⟩ := tied
  obtain ⟨l, ordered⟩ := exists_ordered key rows
  rw [← ordered.perm.countP_eq] at below above
  have bound : n < l.length := Nat.lt_of_lt_of_le above List.countP_le_length
  obtain ⟨m, rfl⟩ : ∃ m, n = m + 1 := ⟨n - 1, by omega⟩
  have tie (i : Nat) (inside : i < l.length) (from' : m ≤ i) (upTo : i ≤ m + 1) :
      key l[i] = key row := by
    have found : l[i]? = some l[i] := List.getElem?_eq_getElem inside
    have low := (holds_iff_lt_countP (ordered.closed_lt (key row)) found).not
    have high := holds_iff_lt_countP (ordered.closed_le (key row)) found
    simp only [decide_eq_true_eq] at low high
    exact le_antisymm (high.mpr (by omega)) (le_of_not_gt (low.mpr (by omega)))
  have cut : l = l.take m ++ l[m] :: l[m + 1] :: l.drop (m + 2) := by
    rw [← List.drop_eq_getElem_cons, ← List.drop_eq_getElem_cons, List.take_append_drop]
  have keys := (tie m (by omega) (by omega) (by omega)).trans
    (tie (m + 1) bound (by omega) (by omega)).symm
  refine ⟨l.take m, l[m], l[m + 1], l.drop (m + 2), by simp; omega, cut ▸ ordered, ?_, ?_⟩
  · have swapped : (l.take m ++ l[m + 1] :: l[m] :: l.drop (m + 2)).Perm l := by
      conv_rhs => rw [cut]
      exact (List.Perm.swap _ _ _).append_left _
    exact swapped.trans ordered.perm
  · have same : (l.take m ++ l[m + 1] :: l[m] :: l.drop (m + 2)).map key = l.map key := by
      conv_rhs => rw [cut]
      simp only [List.map_append, List.map_cons, keys]
    exact same ▸ ordered.sorted

theorem walk_repeats {i : Nat} (positive : 0 < size) (tied : Tied key rows (i * size))
    (all : rows.length ≤ n * size) :
    ∃ orders, (∀ j, Ordered key rows (orders j)) ∧ ¬ (walk size orders n).Nodup := by
  obtain ⟨front, a, b, back, length, ordered, exchanged⟩ := exists_exchange tied
  have inside : i * size < n * size := by
    obtain ⟨row, _, _, above⟩ := tied
    have bound : rows.countP (fun other => key other ≤ key row) ≤ rows.length :=
      List.countP_le_length
    omega
  have early : i < n := Nat.lt_of_mul_lt_mul_right inside
  let orders := fun j => if j < i then front ++ a :: b :: back else front ++ b :: a :: back
  refine ⟨orders, fun j => ?_, fun distinct => ?_⟩
  · simp only [orders]
    split
    · exact ordered
    · exact exchanged
  · have before : walk size orders i = front ++ [a] := by
      rw [walk_same fun j earlier => if_pos earlier, ← length]
      simp [List.take_append, List.take_of_length_le]
    have here : a ∈ page size (orders i) i := by
      obtain ⟨m, rfl⟩ : ∃ m, size = m + 1 := ⟨size - 1, by omega⟩
      rw [page, ← length]
      simp [orders, List.drop_append, List.drop_of_length_le]
    have shown := distinct.sublist (walk_front (Nat.succ_le_of_lt early)).sublist
    rw [walk_succ, before] at shown
    exact (List.nodup_append.mp shown).2.2 a (by simp) a here rfl

end Relational

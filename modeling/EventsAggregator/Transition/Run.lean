import Mathlib.Data.List.Basic

namespace Transition

universe u v w

structure System (σ : Type u) (α : Type v) where
  Initial : σ → Prop
  Step : σ → α → σ → Prop

structure Move (σ : Type u) (α : Type v) where
  source : σ
  action : α
  target : σ

variable {σ : Type u} {α : Type v} {M : System σ α}

/-- The moves of a run are listed newest first. -/
inductive Run (M : System σ α) (s : σ) : List (Move σ α) → σ → Prop
  | refl : Run M s [] s
  | move {moves : List (Move σ α)} {t u : σ} {a : α} (run : Run M s moves t)
      (step : M.Step t a u) : Run M s (⟨t, a, u⟩ :: moves) u

theorem Run.trans {s t u : σ} {earlier later : List (Move σ α)}
    (first : Run M s earlier t) (second : Run M t later u) : Run M s (later ++ earlier) u := by
  induction second with
  | refl => exact first
  | move _ step ih => exact ih.move step

theorem Run.restart {s t : σ} {moves : List (Move σ α)} (_ : Run M s moves t) : Run M t [] t :=
  .refl

theorem Run.guarded {I : σ → Prop} {G : Move σ α → Prop} {s t : σ} {moves : List (Move σ α)}
    (run : Run M s moves t)
    (preserved : ∀ t a u, I t → G ⟨t, a, u⟩ → M.Step t a u → I u)
    (guard : ∀ m ∈ moves, G m) (initial : I s) : I t := by
  induction run with
  | refl => exact initial
  | move _ step ih =>
    obtain ⟨last, rest⟩ := List.forall_mem_cons.mp guard
    exact preserved _ _ _ (ih rest) last step

theorem Run.invariant {I : σ → Prop} {s t : σ} {moves : List (Move σ α)}
    (run : Run M s moves t) (preserved : ∀ t a u, I t → M.Step t a u → I u)
    (initial : I s) : I t :=
  run.guarded (G := fun _ => True) (fun t a u valid _ => preserved t a u valid)
    (fun _ _ => trivial) initial

/-- What every step preserves of a state together with the moves that led to it. -/
theorem Run.history {I : List (Move σ α) → σ → Prop} {s t : σ} {moves : List (Move σ α)}
    (run : Run M s moves t)
    (preserved : ∀ moves t a u, Run M s moves t → I moves t → M.Step t a u →
      I (⟨t, a, u⟩ :: moves) u) (initial : I [] s) : I moves t := by
  induction run with
  | refl => exact initial
  | move run step ih => exact preserved _ _ _ _ run ih step

theorem Run.split {s t : σ} {later earlier : List (Move σ α)} {m : Move σ α}
    (run : Run M s (later ++ m :: earlier) t) :
    Run M s earlier m.source ∧ M.Step m.source m.action m.target ∧ Run M m.target later t := by
  induction later generalizing t with
  | nil =>
    cases run with
    | move run step => exact ⟨run, step, .refl⟩
  | cons last later ih =>
    cases run with
    | move run step =>
      obtain ⟨before, taken, after⟩ := ih run
      exact ⟨before, taken, after.move step⟩

theorem Run.cut {s t : σ} {moves : List (Move σ α)} {m : Move σ α}
    (run : Run M s moves t) (member : m ∈ moves) :
    ∃ later earlier, moves = later ++ m :: earlier ∧ Run M s earlier m.source ∧
      M.Step m.source m.action m.target ∧ Run M m.target later t := by
  obtain ⟨later, earlier, rfl⟩ := List.append_of_mem member
  exact ⟨later, earlier, rfl, run.split⟩

theorem Run.rest {s t : σ} {moves : List (Move σ α)} {m : Move σ α} (run : Run M s moves t)
    (member : m ∈ moves) : ∃ later, Run M m.source later t := by
  obtain ⟨later, _, _, _, step, after⟩ := run.cut member
  exact ⟨_, Run.trans (Run.refl.move step) after⟩

theorem Run.step_of_mem {s t : σ} {moves : List (Move σ α)} {m : Move σ α}
    (run : Run M s moves t) (member : m ∈ moves) : M.Step m.source m.action m.target := by
  obtain ⟨_, _, _, _, step, _⟩ := run.cut member
  exact step

theorem Run.guarded_source {I : σ → Prop} {G : Move σ α → Prop} {s t : σ}
    {moves : List (Move σ α)} {m : Move σ α} (run : Run M s moves t)
    (preserved : ∀ t a u, I t → G ⟨t, a, u⟩ → M.Step t a u → I u)
    (guard : ∀ m ∈ moves, G m) (initial : I s) (member : m ∈ moves) : I m.source := by
  obtain ⟨later, earlier, rfl, before, _, _⟩ := run.cut member
  exact before.guarded preserved (fun n inside => guard n (by simp [inside])) initial

theorem Run.monotone {μ : σ → Nat} {s t : σ} {moves : List (Move σ α)} (run : Run M s moves t)
    (step : ∀ t a u, M.Step t a u → μ t ≤ μ u) : μ s ≤ μ t :=
  run.invariant (I := fun u => μ s ≤ μ u)
    (fun t a u bound taken => Nat.le_trans bound (step t a u taken)) (Nat.le_refl _)

/-- What the counted moves of a run cost comes out of a potential that the others do not raise. -/
theorem Run.spent {μ : σ → Nat} {counted : Move σ α → Bool} {s t : σ} {moves : List (Move σ α)}
    (run : Run M s moves t)
    (spends : ∀ m ∈ moves, M.Step m.source m.action m.target →
      (μ m.target + if counted m then 1 else 0) ≤ μ m.source) :
    μ t + moves.countP counted ≤ μ s := by
  induction run with
  | refl => exact Nat.le_refl _
  | @move moves t u a _ step ih =>
    obtain ⟨last, rest⟩ := List.forall_mem_cons.mp spends
    have paid : (μ u + if counted ⟨t, a, u⟩ then 1 else 0) ≤ μ t := last step
    have before := ih rest
    rw [List.countP_cons]
    omega

def Visited (moves : List (Move σ α)) (t u : σ) : Prop :=
  u = t ∨ ∃ m ∈ moves, m.source = u

theorem Run.around {μ : σ → Nat} {s t u : σ} {moves : List (Move σ α)} {m : Move σ α}
    (run : Run M s moves t) (step : ∀ t a u, M.Step t a u → μ t ≤ μ u) (member : m ∈ moves)
    (visited : Visited moves t u) : μ u ≤ μ m.source ∨ μ m.target ≤ μ u := by
  obtain ⟨later, earlier, rfl, before, _, after⟩ := run.cut member
  rcases visited with rfl | ⟨n, inside, rfl⟩
  · exact Or.inr (after.monotone step)
  · rcases List.mem_append.mp inside with inside | inside
    · obtain ⟨_, _, _, first, _, _⟩ := after.cut inside
      exact Or.inr (first.monotone step)
    · rcases List.mem_cons.mp inside with rfl | inside
      · exact Or.inl (Nat.le_refl _)
      · obtain ⟨_, _, _, _, taken, rest⟩ := before.cut inside
        have through := rest.monotone step
        exact Or.inl (Nat.le_trans (step _ _ _ taken) through)

theorem Run.once {β : Type w} {label : Move σ α → Option β} {marked : σ → β → Prop} {s t : σ}
    {moves : List (Move σ α)} (run : Run M s moves t)
    (marks : ∀ m b, M.Step m.source m.action m.target → label m = some b →
      ¬ marked m.source b ∧ marked m.target b)
    (kept : ∀ t a u b, M.Step t a u → marked t b → marked u b) :
    (moves.filterMap label).Nodup ∧ ∀ b ∈ moves.filterMap label, marked t b := by
  induction run with
  | refl => simp
  | @move moves t u a run step ih =>
    obtain ⟨distinct, past⟩ := ih
    have still : ∀ b ∈ moves.filterMap label, marked u b := fun b inside =>
      kept t a u b step (past b inside)
    cases here : label ⟨t, a, u⟩ with
    | none =>
      rw [List.filterMap_cons_none here]
      exact ⟨distinct, still⟩
    | some b =>
      obtain ⟨before, after⟩ := marks ⟨t, a, u⟩ b step here
      rw [List.filterMap_cons_some here]
      refine ⟨List.nodup_cons.mpr ⟨fun inside => before (past b inside), distinct⟩, ?_⟩
      intro c inside
      rcases List.mem_cons.mp inside with rfl | inside
      · exact after
      · exact still c inside

end Transition

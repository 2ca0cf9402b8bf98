import EventsAggregator.Transition.Run

namespace Transition

universe u v w x

variable {σ : Type u} {α : Type v} {τ : Type w} {β : Type x}

/-- Each step of `M` is answered by a run of `N`, of no step or of several. -/
structure Simulates (M : System σ α) (N : System τ β) (R : σ → τ → Prop) : Prop where
  initial : ∀ s, M.Initial s → ∃ t, N.Initial t ∧ R s t
  step : ∀ s a s' t, R s t → M.Step s a s' → ∃ moves t', Run N t moves t' ∧ R s' t'

variable {M : System σ α} {N : System τ β} {R : σ → τ → Prop}

theorem Simulates.run (simulates : Simulates M N R) {s s' : σ} {moves : List (Move σ α)} {t : τ}
    (run : Run M s moves s') (related : R s t) : ∃ moves' t', Run N t moves' t' ∧ R s' t' := by
  induction run with
  | refl => exact ⟨[], t, .refl, related⟩
  | move _ step ih =>
    obtain ⟨_, middle, before, related⟩ := ih
    obtain ⟨_, t', after, related⟩ := simulates.step _ _ _ middle related step
    exact ⟨_, t', before.trans after, related⟩

/-- A refinement mapping, good for the states that satisfy an invariant. -/
structure Refines (M : System σ α) (N : System τ β) (f : σ → τ) (I : σ → Prop) : Prop where
  initial : ∀ s, M.Initial s → N.Initial (f s) ∧ I s
  step : ∀ s a s', I s → M.Step s a s' → I s' ∧ ∃ moves, Run N (f s) moves (f s')

variable {f : σ → τ} {I : σ → Prop}

theorem Refines.simulates (refines : Refines M N f I) :
    Simulates M N fun s t => I s ∧ t = f s where
  initial s initial := by
    obtain ⟨there, valid⟩ := refines.initial s initial
    exact ⟨f s, there, valid, rfl⟩
  step := by
    rintro s a s' _ ⟨valid, rfl⟩ step
    obtain ⟨valid, moves, run⟩ := refines.step s a s' valid step
    exact ⟨moves, f s', run, valid, rfl⟩

theorem Refines.run (refines : Refines M N f I) {s s' : σ} {moves : List (Move σ α)}
    (valid : I s) (run : Run M s moves s') : I s' ∧ ∃ moves', Run N (f s) moves' (f s') := by
  obtain ⟨moves', _, run, valid, rfl⟩ := refines.simulates.run run ⟨valid, rfl⟩
  exact ⟨valid, moves', run⟩

def Move.seen (f : σ → τ) (part : α → Option β) (m : Move σ α) : Option (Move τ β) :=
  (part m.action).map fun b => ⟨f m.source, b, f m.target⟩

/-- What a step of the whole comes to in a part: its own step where the part acts, and steps that
    are not its own where the rest does. -/
def Answered (N : System τ β) (f : σ → τ) (part : α → Option β) (own : β → Bool) (s : σ) (a : α)
    (s' : σ) : Prop :=
  ∃ moves, Run N (f s) moves (f s') ∧
    moves.filter (fun m => own m.action) = (Move.seen f part ⟨s, a, s'⟩).toList

variable {part : α → Option β} {own : β → Bool} {s s' : σ} {a : α}

theorem Answered.acts {b : β} (acting : part a = some b) (mine : own b = true)
    (step : N.Step (f s) b (f s')) : Answered N f part own s a s' := by
  refine ⟨_, Run.refl.move step, ?_⟩
  simp [Move.seen, acting, mine]

theorem Answered.rests {moves : List (Move τ β)} (resting : part a = none)
    (run : Run N (f s) moves (f s')) (others : ∀ m ∈ moves, own m.action = false) :
    Answered N f part own s a s' := by
  refine ⟨moves, run, ?_⟩
  rw [List.filter_eq_nil_iff.mpr fun m member => by simp [others m member]]
  simp [Move.seen, resting]

structure HasPart (M : System σ α) (N : System τ β) (f : σ → τ) (part : α → Option β)
    (own : β → Bool) : Prop where
  initial : ∀ s, M.Initial s → N.Initial (f s)
  step : ∀ s a s', M.Step s a s' → Answered N f part own s a s'

/-- A run of the whole is a run of the part, and the part's own moves in it are those it makes in
    the run of the whole, in the same order and between the same states. -/
theorem HasPart.run (hasPart : HasPart M N f part own) {moves : List (Move σ α)}
    (run : Run M s moves s') : ∃ moves', Run N (f s) moves' (f s') ∧
      moves'.filter (fun m => own m.action) = moves.filterMap (Move.seen f part) := by
  induction run with
  | refl => exact ⟨[], .refl, rfl⟩
  | move _ step ih =>
    obtain ⟨_, before, earlier⟩ := ih
    obtain ⟨_, after, last⟩ := hasPart.step _ _ _ step
    refine ⟨_, before.trans after, ?_⟩
    rw [List.filter_append, earlier, last, List.filterMap_cons]
    cases Move.seen f part _ with
    | none => rfl
    | some n => rfl

end Transition

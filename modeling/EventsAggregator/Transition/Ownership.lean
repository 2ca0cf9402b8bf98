import Mathlib.Logic.Basic

namespace Transition

universe u v

variable {ι : Type u} {κ : Type v}

def Exclusive (holds : ι → κ → Prop) : Prop :=
  ∀ i j k, holds i k → holds j k → i = j

variable {holds holds' : ι → κ → Prop}

theorem Exclusive.none (idle : ∀ i k, ¬ holds i k) : Exclusive holds := by
  intro i j k mine
  exact absurd mine (idle i k)

theorem Exclusive.acquire (exclusive : Exclusive holds) {i : ι}
    (others : ∀ j k, j ≠ i → holds' j k → holds j k)
    (free : ∀ j k, j ≠ i → holds' i k → ¬ holds j k) : Exclusive holds' := by
  intro j l k first second
  by_cases here : j = i
  · subst here
    apply Classical.byContradiction
    intro other
    have apart : l ≠ j := fun same => other same.symm
    exact free l k apart first (others l k apart second)
  · by_cases there : l = i
    · subst there
      exact absurd (others j k here first) (free j k here second)
    · exact exclusive j l k (others j k here first) (others l k there second)

theorem Exclusive.release (exclusive : Exclusive holds)
    (fewer : ∀ i k, holds' i k → holds i k) : Exclusive holds' := by
  intro i j k first second
  exact exclusive i j k (fewer i k first) (fewer j k second)

end Transition

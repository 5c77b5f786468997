/-
# Exclusion

A slot that at most one of many takes at a time: a flag says whether it is taken, and each of the
many stands at a stage that says whether it has the slot.  What the flag says stays right while
one goes on at a time, whether it takes the slot, gives it back, or does neither.
-/
import Mathlib.Logic.Function.Basic

namespace LabControl

/-- **A slot is taken exactly while somebody has it**, and at most one has it. -/
structure Guarded {S : Nat → Type} (taken : Bool) (has : (n : Nat) → S n → Prop)
    (stage : (n : Nat) → S n) : Prop where
  taken_iff : taken = true ↔ ∃ n, has n (stage n)
  single : ∀ n m, has n (stage n) → has m (stage m) → n = m

namespace Guarded

variable {S : Nat → Type} {taken : Bool} {has : (n : Nat) → S n → Prop}
  {stage : (n : Nat) → S n} {n m : Nat}

/-- Who has a slot after one has gone on without taking it had it before. -/
theorem has_of_has_update {next : S n} (hnext : ¬has n next)
    (h : has m (Function.update stage n next m)) : has m (stage m) := by
  by_cases hm : m = n
  · subst hm
    exact absurd (by simpa using h) hnext
  · rwa [Function.update_of_ne hm] at h

theorem not_has (h : Guarded false has stage) (n : Nat) : ¬has n (stage n) := by
  intro hn
  simpa using h.taken_iff.mpr ⟨n, hn⟩

/-- One goes on and has the slot if it had it before. -/
theorem keep (h : Guarded taken has stage) (next : S n) (hnext : has n next ↔ has n (stage n)) :
    Guarded taken has (Function.update stage n next) := by
  have hsame : ∀ m, has m (Function.update stage n next m) ↔ has m (stage m) := by
    intro m
    by_cases hm : m = n
    · subst hm
      simpa using hnext
    · rw [Function.update_of_ne hm]
  exact { taken_iff := by simp only [hsame, h.taken_iff],
          single := by simpa only [hsame] using h.single }

/-- The one that has the slot goes on without it. -/
theorem release (h : Guarded taken has stage) (hn : has n (stage n)) (next : S n)
    (hnext : ¬has n next) : Guarded false has (Function.update stage n next) := by
  have hnone : ∀ m, ¬has m (Function.update stage n next m) := by
    intro m hm
    obtain rfl := h.single m n (has_of_has_update hnext hm) hn
    exact hnext (by simpa using hm)
  exact { taken_iff := by simp [hnone], single := fun m m' hm => absurd hm (hnone m) }

/-- One takes the slot that nobody has. -/
theorem take (h : Guarded false has stage) (next : S n) (hnext : has n next) :
    Guarded true has (Function.update stage n next) := by
  have honly : ∀ m, has m (Function.update stage n next m) → m = n := by
    intro m hm
    by_contra hne
    rw [Function.update_of_ne hne] at hm
    exact h.not_has m hm
  exact { taken_iff := by simpa using ⟨n, by simpa using hnext⟩,
          single := fun m m' hm hm' => (honly m hm).trans (honly m' hm').symm }

end Guarded

end LabControl

import Mathlib.Order.Iterate
import Mathlib.Order.CompletePartialOrder
import Mathlib.Data.Set.Lattice

/-!
# Opening in stages

Items open on what is open already. `opens T` are the items that open once exactly `T` is
open, and the stages are its iterates from nothing: what opens on nothing, then what opens
on that, and so on. When more open items never close another one, the stages grow. When an
item of a target set opens on the items of the target that have smaller rank, the stages
reach the target, an item of rank `k` at stage `k`.

The start does not matter. Where an item is decided by the items of smaller rank one round
before, any two sequences of sets agree on the items of rank `k` from round `k` on.

## Main results

* `stage_mono`: the stages grow
* `stage_eq`: the stage at which the target is reached
* `agree_of_rank_le`: sequences decided by smaller ranks agree
-/

set_option autoImplicit false

namespace Staging

variable {α : Type*} {opens : Set α → Set α} {target : Set α} {rank : α → ℕ}

/-- What is open after the given number of earlier stages. -/
def stage (opens : Set α → Set α) (k : ℕ) : Set α := opens^[k + 1] ∅

theorem stage_zero : stage opens 0 = opens ∅ := rfl

theorem stage_succ (k : ℕ) : stage opens (k + 1) = opens (stage opens k) :=
  Function.iterate_succ_apply' opens (k + 1) ∅

/-- The stages grow. -/
theorem stage_mono (hmono : Monotone opens) : Monotone (stage opens) := by
  intro j k hjk
  exact hmono.monotone_iterate_of_le_map (Set.empty_subset _) (Nat.succ_le_succ hjk)

theorem stage_subset (hsub : ∀ T, opens T ⊆ target) (k : ℕ) : stage opens k ⊆ target := by
  cases k with
  | zero => exact hsub ∅
  | succ k =>
    rw [stage_succ]
    exact hsub (stage opens k)

/-- An item of the target is open at the stage of its rank, and later. -/
theorem mem_stage_of_rank_le
    (hopens : ∀ T, ∀ x ∈ target, (∀ y ∈ target, rank y < rank x → y ∈ T) → x ∈ opens T)
    {k : ℕ} : ∀ {x : α}, x ∈ target → rank x ≤ k → x ∈ stage opens k := by
  induction k with
  | zero =>
    intro x hx hrank
    exact hopens ∅ x hx fun y _ hlt => absurd (hlt.trans_le hrank) (Nat.not_lt_zero _)
  | succ k ih =>
    intro x hx hrank
    rw [stage_succ]
    exact hopens _ x hx fun y hy hlt => ih hy (Nat.le_of_lt_succ (hlt.trans_le hrank))

/-- The target is reached at the stage of its largest rank. -/
theorem stage_eq (hsub : ∀ T, opens T ⊆ target)
    (hopens : ∀ T, ∀ x ∈ target, (∀ y ∈ target, rank y < rank x → y ∈ T) → x ∈ opens T)
    {k : ℕ} (hrank : ∀ x ∈ target, rank x ≤ k) : stage opens k = target :=
  (stage_subset hsub k).antisymm fun x hx => mem_stage_of_rank_le hopens hx (hrank x hx)

/-- Two sequences of sets in which each item is decided by the items of smaller rank one
round before agree on the items of rank at most `k` at round `k`. -/
theorem agree_of_rank_le {A B : ℕ → Set α} (hzero : ∀ x, rank x = 0 → (x ∈ A 0 ↔ x ∈ B 0))
    (hstep : ∀ k x, (∀ y, rank y < rank x → (y ∈ A k ↔ y ∈ B k)) →
      (x ∈ A (k + 1) ↔ x ∈ B (k + 1)))
    {k : ℕ} : ∀ {x : α}, rank x ≤ k → (x ∈ A k ↔ x ∈ B k) := by
  induction k with
  | zero => exact fun hrank => hzero _ (Nat.le_zero.mp hrank)
  | succ k ih =>
    intro x hrank
    exact hstep k x fun y hlt => ih (Nat.le_of_lt_succ (hlt.trans_le hrank))

/-- So they are equal from the round of the largest rank on. -/
theorem eq_of_rank_le {A B : ℕ → Set α} (hzero : ∀ x, rank x = 0 → (x ∈ A 0 ↔ x ∈ B 0))
    (hstep : ∀ k x, (∀ y, rank y < rank x → (y ∈ A k ↔ y ∈ B k)) →
      (x ∈ A (k + 1) ↔ x ∈ B (k + 1)))
    {bound k : ℕ} (hrank : ∀ x, rank x ≤ bound) (hk : bound ≤ k) : A k = B k :=
  Set.ext fun x => agree_of_rank_le hzero hstep ((hrank x).trans hk)

end Staging

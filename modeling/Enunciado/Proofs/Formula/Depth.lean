import Enunciado.Formula.Basic

namespace Enunciado.Formula

variable {α : Type}

-- A formula that is still to be visited reaches as far below its level as it is high.
theorem visit_le_iff {work : List (Formula α × Nat)} {deepest k : Nat} :
    visit deepest work ≤ k ↔ deepest ≤ k ∧ ∀ p ∈ work, p.2 + p.1.height ≤ k + 1 := by
  fun_induction visit deepest work
  case case1 => simp
  -- Of whatever kind the formula is, its parts are one level below it.
  case case2 hi | case3 hi | case4 hi | case5 hi =>
    simp only [hi, List.forall_mem_cons, height]
    grind

theorem depth_le_iff {x : Formula α} {k : Nat} : x.depth ≤ k ↔ x.height ≤ k := by
  rw [depth, visit_le_iff, List.forall_mem_singleton, Nat.add_comm, Nat.add_le_add_iff_right]
  exact and_iff_right (Nat.zero_le k)

theorem depth_eq_height (x : Formula α) : x.depth = x.height :=
  Nat.le_antisymm (depth_le_iff.mpr (Nat.le_refl _)) (depth_le_iff.mp (Nat.le_refl _))

end Enunciado.Formula

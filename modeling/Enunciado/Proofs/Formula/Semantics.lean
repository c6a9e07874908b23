import Enunciado.Formula.Semantics

namespace Enunciado.Formula

variable {α : Type} {x : Formula α} {v w : α → Bool} {env : Environment α}

-- The value of the formula when its names have the values `v`.
def truth (v : α → Bool) : Formula α → Bool
  | var name => v name
  | const b => b
  | unary _ x => !x.truth v
  | binary op x y => match op.truth? with
    | some f => f (x.truth v) (y.truth v)
    | none => false

theorem truth_congr (h : ∀ name ∈ x.names, v name = w name) : x.truth v = x.truth w := by
  induction x
  case var => exact h _ (by simp [names])
  case const => rfl
  case unary hi => rw [truth, hi h, truth]
  case binary hx hy =>
    have ⟨h₁, h₂⟩ := List.forall_mem_append.mp h
    simp only [truth, hx h₁, hy h₂]

theorem exists_truth? (h : op ≠ Operator.not) : ∃ f, op.truth? = some f := by
  cases op
  case not => contradiction
  all_goals exact ⟨_, rfl⟩

-- A proper formula has a value as soon as each of its names has.
theorem Proper.evaluate (hp : x.Proper) (h : ∀ name ∈ x.names, env name = .ok (v name)) :
    x.evaluate env = .ok (x.truth v) := by
  induction x
  case var => exact h _ (by simp [names])
  case const => rfl
  case unary hi =>
    rw [Formula.evaluate, if_pos hp.1, hi hp.2 h]
    rfl
  case binary op x y hx hy =>
    have ⟨h₁, h₂⟩ := List.forall_mem_append.mp h
    have ⟨f, hf⟩ := exists_truth? hp.1
    simp only [Formula.evaluate, truth, hx hp.2.1 h₁, hy hp.2.2 h₂, hf]

end Enunciado.Formula

import Mathlib.Logic.Function.Iterate
import Enunciado.Proofs.Formula.Depth
import Enunciado.Proofs.Formula.Failure

namespace Enunciado.Formula

variable {α : Type} {x : Formula α} {xs : List (Formula α)} {n k : Nat}

section Branches

-- The formulas on a way from the root of a formula to one of its leaves, the formula itself first.
inductive Branch : Formula α → List (Formula α) → Prop
  | var {name} : Branch (.var name) [.var name]
  | const {b} : Branch (.const b) [.const b]
  | operand {op x xs} : Branch x xs → Branch (.unary op x) (.unary op x :: xs)
  | left {op x y xs} : Branch x xs → Branch (.binary op x y) (.binary op x y :: xs)
  | right {op x y xs} : Branch y xs → Branch (.binary op x y) (.binary op x y :: xs)

theorem Branch.length_le (h : Branch x xs) : xs.length ≤ x.height := by
  induction h
  case var | const => exact Nat.le_refl 1
  case operand hi => exact Nat.succ_le_succ hi
  case left hi => exact Nat.succ_le_succ (hi.trans (Nat.le_max_left _ _))
  case right hi => exact Nat.succ_le_succ (hi.trans (Nat.le_max_right _ _))

theorem exists_branch (x : Formula α) : ∃ xs, Branch x xs ∧ xs.length = x.height := by
  induction x
  case var name => exact ⟨_, .var, rfl⟩
  case const b => exact ⟨_, .const, rfl⟩
  case unary op x hi =>
    obtain ⟨xs, hb, hl⟩ := hi
    exact ⟨_, hb.operand, congrArg (· + 1) hl⟩
  case binary op x y hx hy =>
    obtain ⟨xs, hb, hl⟩ := hx
    obtain ⟨ys, hb', hl'⟩ := hy
    obtain h | h := Nat.le_total x.height y.height
    · exact ⟨_, hb'.right, by rw [List.length_cons, hl', height, Nat.max_eq_right h]⟩
    · exact ⟨_, hb.left, by rw [List.length_cons, hl, height, Nat.max_eq_left h]⟩

theorem lt_depth_iff : n < x.depth ↔ ∃ xs, Branch x xs ∧ n < xs.length := by
  rw [depth_eq_height]
  constructor
  case mp =>
    intro h
    obtain ⟨xs, hb, hl⟩ := exists_branch x
    exact ⟨xs, hb, hl ▸ h⟩
  case mpr =>
    rintro ⟨xs, hb, h⟩
    exact h.trans_le hb.length_le

end Branches

section Search

-- The formulas right below the root, the last one first.
def children : Formula α → List (Formula α)
  | var _ => []
  | const _ => []
  | unary _ x => [x]
  | binary _ x y => [y, x]

-- One round of the search for the depth, in which the first of the nodes that are still to be
-- visited gives way to the nodes right below it. Nothing changes any more when none is left.
def visitNext : Nat × List (Formula α × Nat) → Nat × List (Formula α × Nat)
  | (deepest, []) => (deepest, [])
  | (deepest, (x, level) :: work) =>
    (max deepest level, x.children.map (·, level + 1) ++ work)

theorem visit_visitNext (s : Nat × List (Formula α × Nat)) :
    visit (visitNext s).1 (visitNext s).2 = visit s.1 s.2 := by
  match s with
  | (_, []) => rfl
  | (_, (x, _) :: _) => cases x <;> simp [visitNext, children, visit]

-- Each round settles one node: what is below it was pending already.
theorem pending_visitNext (s : Nat × List (Formula α × Nat)) :
    pending (visitNext s).2 = pending s.2 - 1 := by
  match s with
  | (_, []) => rfl
  | (_, (x, _) :: _) =>
    cases x <;> simp only [visitNext, children, List.map_nil, List.map_cons, List.nil_append,
      List.cons_append, pending, size] <;> omega

theorem pending_eq_zero_iff {work : List (Formula α × Nat)} : pending work = 0 ↔ work = [] := by
  cases work
  case nil => simp [pending]
  case cons p work =>
    have := size_pos p.1
    simp only [pending, reduceCtorEq, iff_false]
    omega

theorem visit_iterate_visitNext (s : Nat × List (Formula α × Nat)) (k : Nat) :
    visit (visitNext^[k] s).1 (visitNext^[k] s).2 = visit s.1 s.2 ∧
      pending (visitNext^[k] s).2 = pending s.2 - k := by
  induction k
  case zero => exact ⟨rfl, rfl⟩
  case succ k hi =>
    rw [Function.iterate_succ_apply', visit_visitNext, pending_visitNext, hi.1, hi.2]
    exact ⟨rfl, Nat.sub_sub _ _ _⟩

-- As many rounds as there are nodes are made, and then none is left.
theorem iterate_visitNext_eq_nil_iff : (visitNext^[k] (0, [(x, 1)])).2 = [] ↔ x.size ≤ k := by
  rw [← pending_eq_zero_iff, (visit_iterate_visitNext _ k).2]
  simp only [pending]
  omega

theorem iterate_visitNext_size (x : Formula α) :
    visitNext^[x.size] (0, [(x, 1)]) = (x.depth, []) := by
  have hn : (visitNext^[x.size] (0, [(x, 1)])).2 = [] :=
    iterate_visitNext_eq_nil_iff.mpr (Nat.le_refl _)
  have hv := (visit_iterate_visitNext (0, [(x, 1)]) x.size).1
  rw [hn, visit] at hv
  exact Prod.ext hv hn

end Search

section Expressions

open Token

variable {e : String} {x : Formula String}

theorem ofTokens_ne_tooDeep (ts : List Token) : ofTokens ts ≠ .error .tooDeep := by
  intro h
  obtain ⟨q, r, -, hq⟩ := fails_of_ofTokens h
  cases hq

theorem parse_eq_tooDeep_iff :
    parse e = .error .tooDeep ↔
      ∃ x, Derives maxNesting .expression (lexemes e.toList) x ∧ maxDepth < x.depth := by
  constructor
  case mp =>
    intro h
    unfold parse ofChars at h
    split at h
    case isTrue => cases h
    split at h
    case isFalse => cases h
    split at h
    case h_1 error he =>
      cases h
      exact absurd he (ofTokens_ne_tooDeep _)
    case h_2 x hx =>
      split at h
      case isTrue => cases h
      case isFalse hd => exact ⟨x, ofTokens_tokenize_eq_ok_iff.mp hx, Nat.lt_of_not_le hd⟩
  case mpr =>
    rintro ⟨x, hx, hd⟩
    rw [parse_of_derives hx, if_neg (Nat.not_le_of_lt hd)]

theorem depth_is_longest_branch :
    (∀ (α : Type) (x : Formula α), x.depth = match x with
      | .var _ => 1
      | .const _ => 1
      | .unary _ y => 1 + y.depth
      | .binary _ y z => 1 + max y.depth z.depth) ∧
    (∀ (α : Type) (x : Formula α), visitNext^[x.size] (0, [(x, 1)]) = (x.depth, []) ∧
      ∀ k, (visitNext^[k] (0, [(x, 1)])).2 = [] ↔ x.size ≤ k) ∧
    (∀ (α : Type) (x : Formula α) n, n < x.depth ↔ ∃ xs, Branch x xs ∧ n < xs.length) ∧
    (∀ e, parse e = .error .tooDeep ↔
      ∃ x, Derives maxNesting .expression (lexemes e.toList) x ∧
        ∃ xs, Branch x xs ∧ maxDepth < xs.length) ∧
    ∀ e x, parse e = .ok x ↔
      Derives maxNesting .expression (lexemes e.toList) x ∧
        ¬∃ xs, Branch x xs ∧ maxDepth < xs.length := by
  refine ⟨fun α x => ?_,
    fun α x => ⟨iterate_visitNext_size x, fun k => iterate_visitNext_eq_nil_iff⟩,
    fun α x n => lt_depth_iff, fun e => ?_, fun e x => ?_⟩
  case refine_1 => cases x <;> simp only [depth_eq_height, height, Nat.add_comm]
  case refine_2 => simp only [parse_eq_tooDeep_iff, lt_depth_iff]
  case refine_3 => rw [parse_eq_ok_iff, ← lt_depth_iff, Nat.not_lt]

end Expressions

end Enunciado.Formula

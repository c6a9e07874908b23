import Mathlib.Algebra.Group.Nat.Defs
import Mathlib.Data.List.Chain
import Enunciado.Text.CodeRange

namespace Enunciado.Text

variable {l m : List CodeRange} {n : Nat}

theorem exists_of_covers (h : covers l n) : ∃ r ∈ l, r.1 ≤ n ∧ n ≤ r.2 := by
  induction l
  case nil => contradiction
  case cons r l hi =>
    rw [covers] at h
    split at h
    case isTrue hn => exact ⟨r, by simp, by simpa using h, hn⟩
    case isFalse =>
      obtain ⟨r', hm, h⟩ := hi h
      exact ⟨r', by simp [hm], h⟩

-- Whether no range of one list meets a range of the other.
def apart (l m : List CodeRange) : Bool :=
  l.all fun r => m.all fun r' => r.2 < r'.1 || r'.2 < r.1

theorem not_covers_of_apart (ha : apart l m) (h : covers l n) : covers m n = false := by
  cases hm : covers m n
  case false => rfl
  case true =>
    have ⟨r, hr, h₁, h₂⟩ := exists_of_covers h
    have ⟨r', hr', h₁', h₂'⟩ := exists_of_covers hm
    have := List.all_eq_true.mp (List.all_eq_true.mp ha r hr) r' hr'
    simp only [Bool.or_eq_true, decide_eq_true_eq] at this
    omega

-- Whether one of the ranges holds all code points from `first` to `last`.
def spans : List CodeRange → Nat → Nat → Bool
  | [], _, _ => false
  | (a, b) :: l, first, last =>
    if first ≤ b then decide (a ≤ first) && decide (last ≤ b) else spans l first last

theorem covers_of_spans (h : spans l first last) (h₁ : first ≤ n) (h₂ : n ≤ last) :
    covers l n := by
  induction l
  case nil => contradiction
  case cons r l hi =>
    rw [spans] at h
    split at h
    case isTrue =>
      simp only [Bool.and_eq_true, decide_eq_true_eq] at h
      rw [covers, if_pos (by omega)]
      exact decide_eq_true (by omega)
    case isFalse hb =>
      rw [covers, if_neg (by omega)]
      exact hi h

section Bits

-- The number whose bits are the code points in the ranges. Many code points can be looked up in it
-- without going through the ranges for each.
def bits (l : List CodeRange) : Nat :=
  l.foldr (fun r b => b ||| (2 ^ (r.2 + 1 - r.1) - 1) <<< r.1) 0

theorem testBit_bits : (bits l).testBit n ↔ ∃ r ∈ l, r.1 ≤ n ∧ n ≤ r.2 := by
  induction l
  case nil => simp [bits]
  case cons r l hi =>
    have hr : (r.1 ≤ n ∧ n - r.1 < r.2 + 1 - r.1) ↔ r.1 ≤ n ∧ n ≤ r.2 := by omega
    rw [bits, List.foldr_cons, ← bits, Nat.testBit_or, Nat.testBit_shiftLeft,
      Nat.testBit_two_pow_sub_one]
    simp [hi, hr, or_comm]

-- The second range begins after the end of the first.
def Precedes (r r' : CodeRange) : Prop :=
  r.2 < r'.1 ∧ r'.1 ≤ r'.2

instance : DecidableRel Precedes :=
  fun _ _ => inferInstanceAs (Decidable (_ ∧ _))

instance : Trans Precedes Precedes Precedes where
  trans h h' := ⟨by have := h.1; have := h.2; have := h'.1; omega, h'.2⟩

theorem covers_of_mem (hl : l.Pairwise Precedes) (hr : r ∈ l) (h₁ : r.1 ≤ n) (h₂ : n ≤ r.2) :
    covers l n := by
  induction hl
  case nil => contradiction
  case cons r' l hb _ hi =>
    rw [covers]
    obtain rfl | hr := List.mem_cons.mp hr
    case inl => simp [h₁, h₂]
    case inr =>
      rw [if_neg (by have := (hb r hr).1; omega)]
      exact hi hr

theorem covers_eq_testBit (hl : l.IsChain Precedes) (n : Nat) :
    covers l n = (bits l).testBit n := by
  rw [Bool.eq_iff_iff, testBit_bits]
  constructor
  case mp => exact exists_of_covers
  case mpr =>
    intro ⟨r, hr, h₁, h₂⟩
    exact covers_of_mem (List.isChain_iff_pairwise.mp hl) hr h₁ h₂

-- Two numbers without a common bit.
theorem testBit_of_and_eq_zero (h : a &&& b = 0) (ha : a.testBit n) : b.testBit n = false := by
  have := congrArg (·.testBit n) h
  simpa [ha] using this

end Bits

end Enunciado.Text

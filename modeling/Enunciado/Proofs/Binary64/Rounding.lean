import Mathlib.Algebra.Order.Group.Nat
import Mathlib.Tactic.Ring
import Enunciado.Binary64.Basic

namespace Enunciado.Magnitude

variable {n d n' d' k : Nat} {x : Magnitude}

theorem twoTo_pos (n : Nat) : 0 < twoTo n :=
  Nat.two_pow_pos n

theorem twoTo_add (m n : Nat) : twoTo (m + n) = twoTo m * twoTo n :=
  Nat.pow_add ..

theorem twoTo_le_twoTo (h : n ≤ k) : twoTo n ≤ twoTo k :=
  Nat.pow_le_pow_right (by decide) h

theorem divNearest_mul_right (hk : 0 < k) (n d : Nat) :
    divNearest (n * k) (d * k) = divNearest n d := by
  have hlt : 2 * (n % d * k) < d * k ↔ 2 * (n % d) < d := by
    rw [← Nat.mul_assoc, Nat.mul_lt_mul_right hk]
  have heq : 2 * (n % d * k) = d * k ↔ 2 * (n % d) = d := by
    rw [← Nat.mul_assoc, Nat.mul_left_inj hk.ne']
  simp only [divNearest, Nat.mul_mod_mul_right, Nat.mul_div_mul_right _ _ hk, hlt, heq]

theorem nearestUnits_mul_right (hk : 0 < k) (n d : Nat) :
    nearestUnits (n * k) (d * k) = nearestUnits n d := by
  have hd (j : Nat) : d * k * twoTo j = d * twoTo j * k := Nat.mul_right_comm ..
  simp only [nearestUnits, Nat.mul_div_mul_right _ _ hk, hd, divNearest_mul_right hk]

theorem ofRatio_congr (hd : 0 < d) (hd' : 0 < d') (h : n * d' = n' * d) :
    ofRatio n d = ofRatio n' d' := by
  calc
    ofRatio n d = nearestUnits (n * unitsPerOne * d') (d * d') :=
      (nearestUnits_mul_right hd' _ _).symm
    _ = nearestUnits (n' * unitsPerOne * d) (d' * d) := by
      rw [Nat.mul_right_comm n, h, Nat.mul_right_comm n', Nat.mul_comm d]
    _ = ofRatio n' d' := nearestUnits_mul_right hd _ _

theorem divNearest_mul_self (hd : 0 < d) (n : Nat) : divNearest (n * d) d = n := by
  simp [divNearest, Nat.mul_div_cancel _ hd, hd]

-- A magnitude whose units are a significand of 53 bits at some scale.
theorem nearestUnits_scaled (hm : twoTo 52 ≤ m) (hm' : m < 2 * twoTo 52) (s : Nat) :
    nearestUnits (m * twoTo s) 1 = ⟨min (s * twoTo 52 + m) infinity.rank⟩ := by
  have hpos : m * twoTo s ≠ 0 := Nat.mul_ne_zero (by have := twoTo_pos 52; omega) (twoTo_pos s).ne'
  have hlog : Nat.log2 (m * twoTo s) = 52 + s := by
    rw [Nat.log2_eq_iff hpos]
    constructor
    · rw [pow_add]
      exact Nat.mul_le_mul_right _ hm
    · rw [Nat.add_right_comm, pow_add]
      exact Nat.mul_lt_mul_of_pos_right (Nat.pow_succ' ▸ hm') (twoTo_pos s)
  simp only [nearestUnits, Nat.div_one, hlog, Nat.add_sub_cancel_left, Nat.one_mul,
    divNearest_mul_self (twoTo_pos s)]

theorem nearestUnits_small (hn : n < twoTo 52) : nearestUnits n 1 = ⟨n⟩ := by
  have hlog : Nat.log2 n - 52 = 0 := by
    by_cases h : n = 0
    case pos => simp [h]
    case neg => exact Nat.sub_eq_zero_of_le ((Nat.log2_lt h).mpr hn).le
  have hd : divNearest n (1 * twoTo 0) = n := by
    have := divNearest_mul_self (d := 1 * twoTo 0) (by decide) n
    rwa [show n * (1 * twoTo 0) = n from by simp [twoTo]] at this
  have hi : n ≤ infinity.rank := by
    have : infinity.rank = 0x7FF * twoTo 52 := rfl
    omega
  simp only [nearestUnits, Nat.div_one, hlog, Nat.zero_mul, Nat.zero_add, hd, Nat.min_eq_left hi]

theorem nearestUnits_units (h : x < infinity) : nearestUnits x.units 1 = x := by
  have h : x.rank < infinity.rank := h
  have hp := twoTo_pos 52
  have hdiv := Nat.div_add_mod x.rank (twoTo 52)
  have hmod := Nat.mod_lt x.rank hp
  by_cases hs : x.rank < twoTo 52
  case pos =>
    have hu : x.units = x.rank := by
      rw [units, significand, scale, if_pos hs, Nat.div_eq_of_lt hs]
      exact Nat.mul_one _
    rw [hu, nearestUnits_small hs]
  case neg =>
    have hq : 0 < x.rank / twoTo 52 := Nat.div_pos (Nat.not_lt.mp hs) hp
    obtain ⟨s, hq⟩ := Nat.exists_eq_add_one_of_ne_zero hq.ne'
    have hu : x.units = (twoTo 52 + x.rank % twoTo 52) * twoTo s := by
      rw [units, significand, scale, if_neg hs, hq, Nat.add_sub_cancel]
    have hr : s * twoTo 52 + (twoTo 52 + x.rank % twoTo 52) = x.rank := by
      rw [hq, Nat.mul_succ, Nat.mul_comm] at hdiv
      omega
    rw [hu, nearestUnits_scaled (by omega) (by omega), hr, Nat.min_eq_left h.le]

end Enunciado.Magnitude

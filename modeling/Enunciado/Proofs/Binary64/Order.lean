import Mathlib.Data.Nat.Log
import Enunciado.Proofs.Binary64.Rounding

namespace Enunciado.Magnitude

section Order

variable {x y z : Magnitude}

theorem not_le : ¬x ≤ y ↔ y < x :=
  Nat.not_le

theorem le_refl (x : Magnitude) : x ≤ x :=
  Nat.le_refl _

theorem le_of_lt (h : x < y) : x ≤ y :=
  Nat.le_of_lt h

theorem le_trans (h : x ≤ y) (h' : y ≤ z) : x ≤ z :=
  Nat.le_trans h h'

theorem lt_trans (h : x < y) (h' : y < z) : x < z :=
  Nat.lt_trans h h'

theorem lt_of_le_of_lt (h : x ≤ y) (h' : y < z) : x < z :=
  Nat.lt_of_le_of_lt h h'

theorem lt_of_lt_of_le (h : x < y) (h' : y ≤ z) : x < z :=
  Nat.lt_of_lt_of_le h h'

end Order

variable {x y : Magnitude} {n d n' d' k m : Nat}

section Nearest

theorem divNearest_le_divNearest (h : n ≤ n') (d : Nat) : divNearest n d ≤ divNearest n' d := by
  have hn := Nat.div_add_mod n d
  have hn' := Nat.div_add_mod n' d
  unfold divNearest
  obtain hq | hq := (Nat.div_le_div_right (c := d) h).lt_or_eq
  case inl => split <;> split <;> omega
  case inr =>
    rw [hq] at hn ⊢
    split <;> split <;> omega

theorem divNearest_mono (hd : 0 < d) (hd' : 0 < d') (h : n * d' ≤ n' * d) :
    divNearest n d ≤ divNearest n' d' := by
  calc
    divNearest n d = divNearest (n * d') (d * d') := (divNearest_mul_right hd' n d).symm
    _ ≤ divNearest (n' * d) (d * d') := divNearest_le_divNearest h _
    _ = divNearest n' d' := by rw [Nat.mul_comm d, divNearest_mul_right hd]

theorem divNearest_le (hd : 0 < d) (h : n ≤ m * d) : divNearest n d ≤ m := by
  calc
    divNearest n d ≤ divNearest (m * d) d := divNearest_le_divNearest h d
    _ = m := divNearest_mul_self hd m

theorem le_divNearest (hd : 0 < d) (h : m * d ≤ n) : m ≤ divNearest n d := by
  calc
    m = divNearest (m * d) d := (divNearest_mul_self hd m).symm
    _ ≤ divNearest n d := divNearest_le_divNearest h d

-- Rounding goes half of the way to the next whole number at most.
theorem divNearest_near (hd : 0 < d) (n : Nat) :
    2 * (divNearest n d * d) ≤ 2 * n + d ∧ 2 * n ≤ 2 * (divNearest n d * d) + d := by
  have hn := Nat.div_add_mod n d
  have hr := Nat.mod_lt n hd
  rw [Nat.mul_comm] at hn
  unfold divNearest
  split
  case isTrue => omega
  case isFalse =>
    rw [Nat.add_one_mul (n / d) d]
    omega

end Nearest

section Scale

-- The scale at which a ratio of units is rounded.
def ratioScale (n d : Nat) : Nat :=
  Nat.log2 (n / d) - 52

theorem nearestUnits_rank (n d : Nat) :
    (nearestUnits n d).rank =
      min (ratioScale n d * twoTo 52 + divNearest n (d * twoTo (ratioScale n d))) infinity.rank :=
  rfl

theorem lt_of_ratioScale (hd : 0 < d) (n : Nat) : n < d * twoTo (ratioScale n d + 53) := by
  have hq : n / d < twoTo (ratioScale n d + 53) := by
    calc
      n / d < twoTo ((n / d).log2 + 1) := Nat.lt_log2_self
      _ ≤ twoTo (ratioScale n d + 53) := twoTo_le_twoTo (by unfold ratioScale; omega)
  rwa [Nat.div_lt_iff_lt_mul hd, Nat.mul_comm] at hq

theorem le_of_ratioScale (hd : 0 < d) (hk : 0 < ratioScale n d) :
    d * twoTo (ratioScale n d + 52) ≤ n := by
  have hl : (n / d).log2 = ratioScale n d + 52 := by unfold ratioScale at hk ⊢; omega
  have hn : n / d ≠ 0 := by
    intro h
    simp [h] at hl
  have hq : twoTo ((n / d).log2) ≤ n / d := Nat.log2_self_le hn
  rwa [hl, Nat.le_div_iff_mul_le hd, Nat.mul_comm] at hq

theorem ratioScale_mono (hd : 0 < d) (hd' : 0 < d') (h : n * d' ≤ n' * d) :
    ratioScale n d ≤ ratioScale n' d' := by
  have hq : n / d ≤ n' / d' := by
    rw [Nat.le_div_iff_mul_le hd']
    refine Nat.le_of_mul_le_mul_right ?_ hd
    calc
      n / d * d' * d = n / d * d * d' := Nat.mul_right_comm ..
      _ ≤ n * d' := Nat.mul_le_mul_right _ (Nat.div_mul_le_self n d)
      _ ≤ n' * d := h
  have hl : (n / d).log2 ≤ (n' / d').log2 := by
    rw [Nat.log2_eq_log_two, Nat.log2_eq_log_two]
    exact Nat.log_mono_right hq
  exact Nat.sub_le_sub_right hl 52

-- A significand has 53 bits at most.
theorem significand_le (hd : 0 < d) (n : Nat) :
    divNearest n (d * twoTo (ratioScale n d)) ≤ 2 * twoTo 52 := by
  refine divNearest_le (Nat.mul_pos hd (twoTo_pos _)) ?_
  have h := lt_of_ratioScale hd n
  rw [twoTo_add, show twoTo 53 = 2 * twoTo 52 from rfl] at h
  refine Nat.le_of_lt (Nat.lt_of_lt_of_eq h ?_)
  rw [← Nat.mul_assoc, Nat.mul_comm]

-- Except at the lowest scale, it has no fewer.
theorem le_significand (hd : 0 < d) (hn : d * twoTo (ratioScale n d + 52) ≤ n) :
    twoTo 52 ≤ divNearest n (d * twoTo (ratioScale n d)) := by
  refine le_divNearest (Nat.mul_pos hd (twoTo_pos _)) ?_
  rwa [Nat.mul_comm, Nat.mul_assoc, ← twoTo_add]

-- What is larger is rounded to what is no smaller, whatever the scale of either.
theorem nearestUnits_mono (hd : 0 < d) (hd' : 0 < d') (h : n * d' ≤ n' * d) :
    nearestUnits n d ≤ nearestUnits n' d' := by
  rw [le_iff, nearestUnits_rank, nearestUnits_rank]
  refine min_le_min_right _ ?_
  have hm := significand_le hd n
  obtain hk | hk := (ratioScale_mono hd hd' h).lt_or_eq
  case inl =>
    have hm' := le_significand hd' (le_of_ratioScale hd' (Nat.zero_lt_of_lt hk))
    have hs := Nat.mul_le_mul_right (twoTo 52) (Nat.succ_le_of_lt hk)
    rw [Nat.succ_mul] at hs
    omega
  case inr =>
    rw [hk] at hm ⊢
    refine Nat.add_le_add_left ?_ _
    have hp := twoTo_pos (ratioScale n' d')
    refine divNearest_mono (Nat.mul_pos hd hp) (Nat.mul_pos hd' hp) ?_
    rw [← Nat.mul_assoc, ← Nat.mul_assoc]
    exact Nat.mul_le_mul_right _ h

end Scale

section Units

theorem units_of_lt (h : x.rank < twoTo 52) : x.units = x.rank := by
  rw [units, significand, scale, if_pos h, Nat.div_eq_of_lt h]
  exact Nat.mul_one _

-- The units of a significand of 53 bits at some scale.
theorem units_scaled (hm : twoTo 52 ≤ m) (hm' : m ≤ 2 * twoTo 52) (k : Nat) :
    (⟨k * twoTo 52 + m⟩ : Magnitude).units = m * twoTo k := by
  have hp := twoTo_pos 52
  have hn : ¬k * twoTo 52 + m < twoTo 52 := by omega
  obtain hm' | rfl := hm'.lt_or_eq
  case inl =>
    obtain ⟨r, rfl⟩ := Nat.exists_eq_add_of_le hm
    have hr : r < twoTo 52 := by omega
    have hk : k * twoTo 52 + (twoTo 52 + r) = r + (k + 1) * twoTo 52 := by
      rw [Nat.add_one_mul]
      omega
    simp only [units, significand, scale, if_neg hn]
    rw [hk, Nat.add_mul_mod_self_right, Nat.mod_eq_of_lt hr, Nat.add_mul_div_right _ _ hp,
      Nat.div_eq_of_lt hr, Nat.zero_add, Nat.add_sub_cancel]
  case inr =>
    have hk : k * twoTo 52 + 2 * twoTo 52 = (k + 2) * twoTo 52 := (Nat.add_mul ..).symm
    simp only [units, significand, scale, if_neg hn]
    rw [hk, Nat.mul_mod_left, Nat.mul_div_cancel _ hp, Nat.add_zero]
    exact (congrArg _ (twoTo_add k 1)).trans (by rw [show twoTo 1 = 2 from rfl]; ring)

theorem exists_scaled (h : twoTo 52 ≤ n) :
    ∃ k m, n = k * twoTo 52 + m ∧ twoTo 52 ≤ m ∧ m < 2 * twoTo 52 := by
  have hp := twoTo_pos 52
  have hr := Nat.mod_lt n hp
  have hn := Nat.div_add_mod n (twoTo 52)
  obtain ⟨k, hk⟩ := Nat.exists_eq_add_one_of_ne_zero (Nat.div_pos h hp).ne'
  refine ⟨k, twoTo 52 + n % twoTo 52, ?_, by omega, by omega⟩
  rw [hk, Nat.mul_comm, Nat.add_one_mul] at hn
  omega

theorem units_mono (h : x ≤ y) : x.units ≤ y.units := by
  refine monotone_nat_of_le_succ (f := fun r => units ⟨r⟩) (fun r => ?_) h
  obtain hr | hr := Nat.lt_or_ge r (twoTo 52)
  case inl =>
    rw [units_of_lt (x := ⟨r⟩) hr]
    obtain hs | hs := (Nat.succ_le_of_lt hr).lt_or_eq
    case inl =>
      rw [units_of_lt (x := ⟨r + 1⟩) hs]
      exact Nat.le_succ r
    case inr =>
      have hu := units_scaled (Nat.le_refl (twoTo 52)) (by omega) 0
      rw [Nat.zero_mul, Nat.zero_add, show twoTo 0 = 1 from rfl, Nat.mul_one] at hu
      rw [show r + 1 = twoTo 52 from hs, hu]
      exact hr.le
  case inr =>
    obtain ⟨k, m, rfl, hm, hm'⟩ := exists_scaled hr
    rw [units_scaled hm hm'.le, Nat.add_assoc, units_scaled (by omega) hm']
    exact Nat.mul_le_mul_right _ (Nat.le_succ m)

theorem ofRatio_mono (hd : 0 < d) (hd' : 0 < d') (h : n * d' ≤ n' * d) :
    ofRatio n d ≤ ofRatio n' d' := by
  refine nearestUnits_mono hd hd' ?_
  rw [Nat.mul_right_comm, Nat.mul_right_comm n']
  exact Nat.mul_le_mul_right _ h

theorem add_mono {x' y' : Magnitude} (h : x ≤ x') (h' : y ≤ y') : x.add y ≤ x'.add y' := by
  refine nearestUnits_mono Nat.one_pos Nat.one_pos (Nat.mul_le_mul_right _ ?_)
  exact Nat.add_le_add (units_mono h) (units_mono h')

theorem times_mono (h : x ≤ y) (n : Nat) : x.times n ≤ y.times n :=
  nearestUnits_mono Nat.one_pos Nat.one_pos
    (Nat.mul_le_mul_right _ (Nat.mul_le_mul_right _ (units_mono h)))

theorem divide_mono (h : x ≤ y) (hd : 0 < d) : x.divide d ≤ y.divide d :=
  nearestUnits_mono hd hd (Nat.mul_le_mul_right _ (units_mono h))

end Units

section Error

-- A magnitude that differs from `n / d` units by less than one part in two to the 53rd.
structure Near (x : Magnitude) (n d : Nat) : Prop where
  le : x.units * d * twoTo 53 ≤ n * (twoTo 53 + 1)
  ge : n * (twoTo 53 - 1) ≤ x.units * d * twoTo 53

theorem lt_of_twoTo_lt (h : twoTo n < twoTo k) : n < k := by
  by_contra hn
  exact absurd h (Nat.not_lt.mpr (twoTo_le_twoTo (Nat.not_lt.mp hn)))

-- Half of a step is one part in `2 * t` at most of a number that has `t` steps.
theorem near_of_half {step value t : Nat} (h : 2 * value ≤ 2 * n + step)
    (h' : 2 * n ≤ 2 * value + step) (hs : step * t ≤ n) :
    value * (2 * t) ≤ n * (2 * t + 1) ∧ n * (2 * t - 1) ≤ value * (2 * t) := by
  have hle := Nat.mul_le_mul_right t h
  have hge := Nat.mul_le_mul_right t h'
  rw [Nat.add_mul, Nat.mul_assoc, Nat.mul_assoc] at hle hge
  rw [Nat.mul_add_one, Nat.mul_sub_one, Nat.mul_left_comm value, Nat.mul_left_comm n]
  omega

-- This holds of ratios that are neither so small that they have fewer bits nor so large that they
-- are taken for infinity.
theorem near_nearestUnits (hd : 0 < d) (hl : d * twoTo 52 ≤ n) (hu : n < d * twoTo 2000) :
    Near (nearestUnits n d) n d := by
  have hk : d * twoTo (ratioScale n d + 52) ≤ n := by
    obtain hk | hk := Nat.eq_zero_or_pos (ratioScale n d)
    case inl => rwa [hk, Nat.zero_add]
    case inr => exact le_of_ratioScale hd hk
  have hm := le_significand hd hk
  have hm' := significand_le hd n
  have hs : ratioScale n d < 1948 := by
    have h : twoTo (ratioScale n d + 52) < twoTo 2000 :=
      Nat.lt_of_mul_lt_mul_left (Nat.lt_of_le_of_lt hk hu)
    have := lt_of_twoTo_lt h
    omega
  have hrank : ratioScale n d * twoTo 52 + divNearest n (d * twoTo (ratioScale n d)) ≤
      infinity.rank := by
    have h := Nat.mul_le_mul_right (twoTo 52) hs.le
    have hi : infinity.rank = 0x7FF * twoTo 52 := rfl
    omega
  have hx : nearestUnits n d =
      ⟨ratioScale n d * twoTo 52 + divNearest n (d * twoTo (ratioScale n d))⟩ :=
    congrArg Magnitude.mk (Nat.min_eq_left hrank)
  have hnear := divNearest_near (Nat.mul_pos hd (twoTo_pos (ratioScale n d))) n
  rw [twoTo_add, ← Nat.mul_assoc] at hk
  rw [hx]
  have hv : (⟨ratioScale n d * twoTo 52 + divNearest n (d * twoTo (ratioScale n d))⟩ :
      Magnitude).units * d = divNearest n (d * twoTo (ratioScale n d)) *
        (d * twoTo (ratioScale n d)) := by
    rw [units_scaled hm hm', Nat.mul_assoc, Nat.mul_comm d]
  obtain ⟨hle, hge⟩ := near_of_half hnear.1 hnear.2 hk
  exact ⟨hv ▸ hle, hv ▸ hge⟩

namespace Near

theorem le_double (h : Near x n d) : x.units * d ≤ 2 * n := by
  refine Nat.le_of_mul_le_mul_right ?_ (twoTo_pos 53)
  calc
    x.units * d * twoTo 53 ≤ n * (twoTo 53 + 1) := h.le
    _ ≤ n * (2 * twoTo 53) := Nat.mul_le_mul_left _ (by have := twoTo_pos 53; omega)
    _ = 2 * n * twoTo 53 := by ring

theorem half_le (h : Near x n d) : n ≤ 2 * (x.units * d) := by
  have ht : twoTo 53 ≤ 2 * (twoTo 53 - 1) := by decide +kernel
  refine Nat.le_of_mul_le_mul_right ?_ (twoTo_pos 53)
  calc
    n * twoTo 53 ≤ n * (2 * (twoTo 53 - 1)) := Nat.mul_le_mul_left _ ht
    _ = 2 * (n * (twoTo 53 - 1)) := Nat.mul_left_comm ..
    _ ≤ 2 * (x.units * d * twoTo 53) := Nat.mul_le_mul_left _ h.ge
    _ = 2 * (x.units * d) * twoTo 53 := by ring

end Near

end Error

end Enunciado.Magnitude

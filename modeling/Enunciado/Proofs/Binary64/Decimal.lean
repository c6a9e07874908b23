import Mathlib.Tactic.Linarith
import Enunciado.Proofs.Binary64.Digits
import Enunciado.Proofs.Binary64.Rounding

namespace Enunciado.Magnitude

variable {x : Magnitude} {d : Digits} {n k c width length : Nat}

theorem tenTo_pos (n : Nat) : 0 < tenTo n :=
  Nat.pow_pos (by decide)

theorem tenTo_add (m n : Nat) : tenTo (m + n) = tenTo m * tenTo n :=
  Nat.pow_add ..

theorem length_le_iff : (decimalDigits n).length ≤ k ↔ n < tenTo k :=
  length_decimalDigits_le_iff

theorem lt_length_iff : k < (decimalDigits n).length ↔ tenTo k ≤ n :=
  lt_length_decimalDigits_iff

-- Between the ranges where a number is taken for infinity or zero, its ratio is rounded.
theorem ofDecimal_eq_ofRatio (hn : n ≠ 0) {e : Int}
    (hl : -decimalRange ≤ (decimalDigits n).length + e)
    (hu : (decimalDigits n).length + e < decimalRange) :
    ofDecimal n e = ofRatio (n * tenTo e.toNat) (tenTo (-e).toNat) := by
  have hr : (decimalRange : Int) = 400 := rfl
  rw [hr] at hl hu
  cases e
  case ofNat e =>
    have hz : ¬decimalRange ≤ (decimalDigits n).length + e := by
      simp only [decimalRange, Int.ofNat_eq_natCast] at hu ⊢
      omega
    simp only [ofDecimal, if_neg hn, if_neg hz]
    simp [tenTo]
  case negSucc e =>
    have hz : ¬(decimalDigits n).length + decimalRange ≤ e := by
      simp only [decimalRange]
      omega
    simp only [ofDecimal, if_neg hz]
    simp [tenTo, Int.neg_negSucc]

theorem ofDecimal_zero (e : Int) : ofDecimal 0 e = ⟨0⟩ := by
  cases e
  case ofNat => rfl
  case negSucc e =>
    have h : ofRatio 0 (tenTo (e + 1)) = ⟨0⟩ := by
      calc
        ofRatio 0 (tenTo (e + 1)) = ofRatio 0 1 := ofRatio_congr (tenTo_pos _) Nat.one_pos (by simp)
        _ = ⟨0⟩ := by rw [ofRatio, Nat.zero_mul, nearestUnits_small (twoTo_pos 52)]
    simp only [ofDecimal, h, ite_self]

namespace Digits

-- The exponent of ten of the last digit.
def exponent (d : Digits) : Int :=
  d.point - d.digits.length

-- The digits, with any number of zeros after them, are read as the magnitude.
structure Denotes (d : Digits) (x : Magnitude) : Prop where
  significant : Significant d.digits
  reads : ∀ k : Nat, ofDecimal (ofDecimalDigits d.digits * 10 ^ k) (d.exponent - k) = x

theorem Denotes.reads_digits (h : d.Denotes x) :
    ofDecimal (ofDecimalDigits d.digits) (d.point - d.digits.length) = x := by
  simpa [exponent] using h.reads 0

theorem denotes_of_ratio (hs : Significant d.digits) (hl : -decimalRange ≤ d.point)
    (hu : d.point < decimalRange)
    (h : ofRatio (ofDecimalDigits d.digits * tenTo d.exponent.toNat)
      (tenTo (-d.exponent).toNat) = x) : d.Denotes x := by
  refine ⟨hs, fun k => ?_⟩
  have hn : ofDecimalDigits d.digits * 10 ^ k ≠ 0 :=
    Nat.mul_ne_zero hs.value_ne_zero (Nat.pow_pos (by decide)).ne'
  have hw : ((decimalDigits (ofDecimalDigits d.digits * 10 ^ k)).length : Int) +
      (d.exponent - k) = d.point := by
    rw [hs.length_decimalDigits, exponent]
    omega
  rw [ofDecimal_eq_ofRatio hn (by omega) (by omega), ← h]
  apply ofRatio_congr (tenTo_pos _) (tenTo_pos _)
  have he : k + (d.exponent - k).toNat + (-d.exponent).toNat =
      d.exponent.toNat + (-(d.exponent - k)).toNat := by
    omega
  calc
    _ = ofDecimalDigits d.digits * (tenTo k * tenTo (d.exponent - k).toNat *
        tenTo (-d.exponent).toNat) := by
      simp only [tenTo, Nat.pow_eq]
      ring
    _ = ofDecimalDigits d.digits * (tenTo d.exponent.toNat *
        tenTo (-(d.exponent - k)).toNat) := by
      rw [← tenTo_add, ← tenTo_add, he, tenTo_add]
    _ = _ := (Nat.mul_assoc ..).symm

end Digits

section Range

theorem units_pos (h : 0 < x.rank) : 0 < x.units := by
  have hp := twoTo_pos 52
  refine Nat.mul_pos ?_ (twoTo_pos _)
  unfold significand
  split <;> omega

theorem units_lt (h : x < infinity) : x.units < twoTo 2098 := by
  have hr : x.rank < 0x7FF * twoTo 52 := h
  have hp := twoTo_pos 52
  have hs : x.significand < twoTo 53 := by
    have hd : twoTo 53 = twoTo 52 * 2 := twoTo_add 52 1
    have hm := Nat.mod_lt x.rank hp
    unfold significand
    split <;> omega
  have hc : x.scale ≤ 2045 := by
    have := (Nat.div_lt_iff_lt_mul hp).mpr hr
    unfold scale
    omega
  calc
    x.units < twoTo 53 * twoTo x.scale := Nat.mul_lt_mul_of_pos_right hs (twoTo_pos _)
    _ ≤ twoTo 53 * twoTo 2045 := Nat.mul_le_mul_left _ (twoTo_le_twoTo hc)
    _ = twoTo 2098 := by rw [← twoTo_add]

theorem twoTo_le_tenTo (h : m ≤ 3 * n) : twoTo m ≤ tenTo n := by
  calc
    twoTo m ≤ twoTo (3 * n) := twoTo_le_twoTo h
    _ = Nat.pow 8 n := Nat.pow_mul ..
    _ ≤ tenTo n := Nat.pow_le_pow_left (by decide) n

theorem unitsPerOne_pos : 0 < unitsPerOne :=
  twoTo_pos _

theorem unitsPerOne_le : unitsPerOne ≤ tenTo 358 :=
  twoTo_le_tenTo (by decide)

theorem le_enlarged (h : 0 < x.rank) : tenTo 42 ≤ x.enlarged := by
  rw [enlarged, Nat.le_div_iff_mul_le unitsPerOne_pos]
  calc
    tenTo 42 * unitsPerOne ≤ tenTo 42 * tenTo 358 := Nat.mul_le_mul_left _ unitsPerOne_le
    _ = tenTo decimalRange := by rw [← tenTo_add, decimalRange]
    _ ≤ x.units * tenTo decimalRange := Nat.le_mul_of_pos_left _ (units_pos h)

theorem enlarged_lt (h : x < infinity) : x.enlarged < tenTo 742 := by
  rw [enlarged, Nat.div_lt_iff_lt_mul unitsPerOne_pos]
  calc
    x.units * tenTo decimalRange < twoTo 2098 * tenTo decimalRange :=
      Nat.mul_lt_mul_of_pos_right (units_lt h) (tenTo_pos _)
    _ = twoTo 1024 * unitsPerOne * tenTo decimalRange := by rw [unitsPerOne, ← twoTo_add]
    _ ≤ tenTo 342 * unitsPerOne * tenTo decimalRange :=
      Nat.mul_le_mul_right _ (Nat.mul_le_mul_right _ (twoTo_le_tenTo (by decide)))
    _ = tenTo 742 * unitsPerOne := by rw [Nat.mul_right_comm, decimalRange, ← tenTo_add]

end Range

section Shortest

-- What is found at a width is one of the two numbers around the magnitude, and reads back.
theorem atWidth?_eq_some (h : x.atWidth? length width = some c) :
    ofGrid length c width = x ∧
      (c = x.enlarged / tenTo (length - width) ∨ c = x.enlarged / tenTo (length - width) + 1) := by
  have hq : x.units * tenTo decimalRange / (unitsPerOne * tenTo (length - width)) =
      x.enlarged / tenTo (length - width) :=
    (Nat.div_div_eq_div_mul ..).symm
  unfold atWidth? at h
  simp only [hq] at h
  split at h
  case isTrue hb =>
    split at h <;> cases h
    · exact ⟨hb.1, .inl rfl⟩
    · exact ⟨hb.2, .inr rfl⟩
  case isFalse =>
    split at h
    case isTrue hb =>
      cases h
      exact ⟨hb, .inl rfl⟩
    case isFalse =>
      split at h <;> cases h
      case isTrue ha => exact ⟨ha, .inr rfl⟩

-- Such a number has as many digits as the width asks for, or one more.
theorem length_decimalDigits_atWidth (hn : width < length) (hw : 0 < width)
    (hl : tenTo (length - 1) ≤ n) (hu : n < tenTo length)
    (hc : c = n / tenTo (length - width) ∨ c = n / tenTo (length - width) + 1) :
    width ≤ (decimalDigits c).length ∧ (decimalDigits c).length ≤ width + 1 := by
  have hp := tenTo_pos (length - width)
  have hlow : tenTo (width - 1) ≤ n / tenTo (length - width) := by
    rw [Nat.le_div_iff_mul_le hp, ← tenTo_add]
    rwa [show width - 1 + (length - width) = length - 1 from by omega]
  have hhigh : n / tenTo (length - width) < tenTo width := by
    rw [Nat.div_lt_iff_lt_mul hp, ← tenTo_add]
    rwa [show width + (length - width) = length from by omega]
  have hten : tenTo (width + 1) = tenTo width * 10 := tenTo_add width 1
  constructor
  · have : width - 1 < (decimalDigits c).length :=
      lt_length_iff.mpr (by omega)
    omega
  · exact length_le_iff.mpr (by omega)

-- The digits of a number that reads back at some width, without the zeros at their end.
theorem denotes_trimmed (hw : width ≤ length) (hc : c ≠ 0) (hg : ofGrid length c width = x)
    (hl : width ≤ (decimalDigits c).length) (hu : (decimalDigits c).length ≤ width + 1)
    (hlength : length < 2 * decimalRange - 1) :
    Digits.Denotes ⟨((decimalDigits c).reverse.dropWhile (· = 0)).reverse,
      length - decimalRange + ((decimalDigits c).length - width : Int)⟩ x := by
  have ⟨hs, z, hz⟩ := (significant_decimalDigits hc).exists_trimmed
  generalize ((decimalDigits c).reverse.dropWhile (· = 0)).reverse = ds at hs hz ⊢
  have hv : ofDecimalDigits ds * tenTo z = c := by
    rw [← ofDecimalDigits_decimalDigits c, hz]
    exact (ofDecimalDigits_append_zeros ds z).symm
  have hlen : (decimalDigits c).length = ds.length + z := by rw [hz]; simp
  refine Digits.denotes_of_ratio hs ?_ ?_ ?_
  · simp only [decimalRange] at hlength ⊢
    omega
  · simp only [decimalRange] at hlength ⊢
    omega
  rw [← hg, ofGrid]
  apply ofRatio_congr (tenTo_pos _) (tenTo_pos _)
  simp only [Digits.exponent]
  generalize he : (length - decimalRange + ((decimalDigits c).length - width : Int) - ds.length) = e
  have hexp : e.toNat + decimalRange = z + (length - width) + (-e).toNat := by omega
  rw [← hv, Nat.mul_assoc, ← tenTo_add, hexp, tenTo_add, tenTo_add]
  ring

end Shortest

section Exact

theorem tenTo_eq (n : Nat) : tenTo n = Nat.pow 5 n * twoTo n :=
  Nat.mul_pow 5 2 n

theorem tenTo_le_five (h : k = 3 * n) : tenTo (2 * n) ≤ Nat.pow 5 k := by
  calc
    tenTo (2 * n) = Nat.pow 100 n := Nat.pow_mul ..
    _ ≤ Nat.pow 125 n := Nat.pow_le_pow_left (by decide) n
    _ = Nat.pow 5 k := h ▸ (Nat.pow_mul 5 3 n).symm

theorem denotes_exactDigits (hp : 0 < x.rank) (hx : x < infinity) : x.exactDigits.Denotes x := by
  unfold exactDigits
  -- The powers of five have a name, so that none is computed.
  have hfive (k n : Nat) (h : k = 3 * n) : tenTo (2 * n) ≤ Nat.pow 5 k := tenTo_le_five h
  have hten (n : Nat) : tenTo n = Nat.pow 5 n * twoTo n := tenTo_eq n
  generalize Nat.pow 5 = fiveTo at hfive hten ⊢
  have hfive : tenTo 716 ≤ fiveTo 1074 := hfive 1074 358 rfl
  have hten : tenTo 1074 = fiveTo 1074 * twoTo 1074 := hten 1074
  generalize fiveTo 1074 = five at hfive hten ⊢
  have hl : tenTo 716 ≤ x.units * five :=
    Nat.le_trans hfive (Nat.le_mul_of_pos_left _ (units_pos hp))
  have hu : x.units * five < tenTo 1416 := by
    calc
      x.units * five < twoTo 2098 * five :=
        Nat.mul_lt_mul_of_pos_right (units_lt hx) (Nat.lt_of_lt_of_le (tenTo_pos _) hfive)
      _ = twoTo 1024 * tenTo 1074 := by
        rw [hten, Nat.mul_comm five, ← Nat.mul_assoc, ← twoTo_add]
      _ ≤ tenTo 342 * tenTo 1074 := Nat.mul_le_mul_right _ (twoTo_le_tenTo (by decide))
      _ = tenTo 1416 := by rw [← tenTo_add]
  have hne : x.units * five ≠ 0 := (Nat.lt_of_lt_of_le (tenTo_pos _) hl).ne'
  have hlength := lt_length_iff.mpr hl
  have hlength' := length_le_iff.mpr hu
  refine Digits.denotes_of_ratio (significant_decimalDigits hne) ?_ ?_ ?_
  · simp only [decimalRange]
    omega
  · simp only [decimalRange]
    omega
  have he : ((decimalDigits (x.units * five)).length - 1074 -
      (decimalDigits (x.units * five)).length : Int) = -1074 := by
    omega
  simp only [Digits.exponent, ofDecimalDigits_decimalDigits, he]
  calc
    ofRatio (x.units * five * tenTo 0) (tenTo 1074) = ofRatio x.units unitsPerOne := by
      apply ofRatio_congr (tenTo_pos _) unitsPerOne_pos
      have hone : tenTo 0 = 1 := rfl
      rw [hten, unitsPerOne, hone, Nat.mul_one, Nat.mul_assoc]
    _ = nearestUnits (x.units * unitsPerOne) (1 * unitsPerOne) := by rw [ofRatio, Nat.one_mul]
    _ = x := by rw [nearestUnits_mul_right unitsPerOne_pos, nearestUnits_units hx]

end Exact

theorem denotes_shortestDigits (hp : 0 < x.rank) (hx : x < infinity) :
    x.shortestDigits.Denotes x := by
  have hl := lt_length_iff.mpr (le_enlarged hp)
  have hu := length_le_iff.mpr (enlarged_lt hx)
  have hlow : tenTo ((decimalDigits x.enlarged).length - 1) ≤ x.enlarged :=
    lt_length_iff.mp (by omega)
  have hhigh : x.enlarged < tenTo (decimalDigits x.enlarged).length :=
    length_le_iff.mp (Nat.le_refl _)
  rw [shortestDigits]
  generalize (decimalDigits x.enlarged).length = length at hl hu hlow hhigh ⊢
  cases hf : (List.range 17).findSome? fun i => x.digitsAtWidth? length (i + 1)
  case none => exact denotes_exactDigits hp hx
  case some d =>
    obtain ⟨i, hi, hd⟩ := List.exists_of_findSome?_eq_some hf
    obtain ⟨c, hc, rfl⟩ := Option.map_eq_some_iff.mp hd
    have hi := List.mem_range.mp hi
    have ⟨hg, hc⟩ := atWidth?_eq_some hc
    have ⟨hw, hw'⟩ := length_decimalDigits_atWidth (by omega) (by omega) hlow hhigh hc
    have hne : c ≠ 0 := by
      rintro rfl
      simp [decimalDigits] at hw
    refine denotes_trimmed (by omega) hne hg hw hw' ?_
    simp only [decimalRange]
    omega

end Enunciado.Magnitude

import Mathlib.Tactic.IntervalCases
import Enunciado.Json.Printer
import Enunciado.Proofs.Binary64.Decimal
import Enunciado.Proofs.Json.Numeral

namespace Enunciado.Json

open Magnitude

variable {x : Magnitude} {ds ws fs : List Nat} {n : Nat}

-- Text that is a numeral worth a value.
def Writes (text : List Char) (v : Json) : Prop :=
  ∃ (n : Numeral) (e : List Char), n.Written e ∧ n.chars e = text ∧ n.value = .ok v

section Digits

theorem isDigit_digitChar {d : Nat} (h : d < 10) : isDigit (Nat.digitChar d) := by
  interval_cases d <;> rfl

theorem isDigit_digitChars (h : ∀ d ∈ ds, d < 10) : ∀ c ∈ digitChars ds, isDigit c := by
  intro c hc
  obtain ⟨d, hd, rfl⟩ := List.mem_map.mp hc
  exact isDigit_digitChar (h d hd)

theorem digitsValue_digitChars (h : ∀ d ∈ ds, d < 10) :
    digitsValue (digitChars ds) = ofDecimalDigits ds := by
  have hv : ∀ d ∈ ds, (Nat.digitChar d).toNat - '0'.toNat = d :=
    fun d hd => Nat.toNat_digitChar_sub_48_of_lt_ten (h d hd)
  rw [digitsValue, digitChars, List.map_map]
  congr 1
  exact (List.map_congr_left hv).trans (List.map_id ds)

theorem digitChars_append (ds es : List Nat) :
    digitChars (ds ++ es) = digitChars ds ++ digitChars es :=
  List.map_append

theorem zeros_eq (n : Nat) : zeros n = digitChars (List.replicate n 0) :=
  (List.map_replicate (f := Nat.digitChar) (a := 0)).symm

theorem digitChars_zero : digitChars [0] = ['0'] :=
  rfl

theorem zeros_append_small (h : ∀ d ∈ ds, d < 10) (n : Nat) :
    ∀ d ∈ List.replicate n 0 ++ ds, d < 10 := by
  intro d hd
  rcases List.mem_append.mp hd with hd | hd
  · simp [List.eq_of_mem_replicate hd]
  · exact h d hd

-- Digits before a point: a zero, or digits of which the first is no zero.
def Leads (ds : List Nat) : Prop :=
  ds = [0] ∨ Significant ds

theorem Leads.small (h : Leads ds) : ∀ d ∈ ds, d < 10 := by
  rcases h with rfl | h
  · simp
  · exact h.small

theorem Leads.whole (h : Leads ds) : Whole (digitChars ds) := by
  refine ⟨isDigit_digitChars h.small, ?_⟩
  rcases h with rfl | h
  case inl => exact ⟨'0', [], rfl, fun _ => rfl⟩
  case inr =>
    obtain ⟨d, ds, rfl, hd⟩ := h.leading
    exact ⟨_, _, rfl, fun h0 => absurd (Nat.digitChar_eq_zero.mp h0) hd⟩

theorem toDigits_eq (h : n ≠ 0) : Nat.toDigits 10 n = digitChars (decimalDigits n) := by
  induction n using Nat.strong_induction_on
  case h n hi =>
    rw [decimalDigits, if_neg h, digitChars_append]
    by_cases hn : n < 10
    case pos =>
      rw [Nat.toDigits_of_lt_base hn, Nat.div_eq_of_lt hn, Nat.mod_eq_of_lt hn, decimalDigits]
      rfl
    case neg =>
      rw [Nat.toDigits_of_base_le (by decide) (by omega), hi _ (by omega) (by omega)]
      rfl

theorem exists_toDigits (n : Nat) :
    ∃ ds, Nat.toDigits 10 n = digitChars ds ∧ Leads ds ∧ ofDecimalDigits ds = n := by
  by_cases h : n = 0
  case pos => exact ⟨[0], by rw [h]; rfl, .inl rfl, by rw [h]; rfl⟩
  case neg =>
    exact ⟨decimalDigits n, toDigits_eq h, .inr (significant_decimalDigits h),
      ofDecimalDigits_decimalDigits n⟩

end Digits

section Int

theorem toList_toString_int (n : Int) :
    (toString n).toList = signChars (n < 0) ++ Nat.toDigits 10 n.natAbs := by
  cases n
  case ofNat n =>
    have h : ¬(n : Int) < 0 := by omega
    simp [signChars, h, Int.toString_eq_repr, Int.repr, Nat.toList_repr]
  case negSucc n => simp [signChars, Int.toString_eq_repr, Int.repr, Nat.toList_repr]

theorem writes_int {n : Int} (h : n.natAbs < 10 ^ maxDigits) :
    Writes (toString n).toList (.int n) := by
  obtain ⟨ds, hd, hl, hv⟩ := exists_toDigits n.natAbs
  refine ⟨⟨n < 0, digitChars ds, [], none⟩, [], ⟨hl.whole, by simp, .absent⟩, ?_, ?_⟩
  · rw [toList_toString_int, hd]
    simp [Numeral.chars, fractionChars]
  · have hlen : (digitChars ds).length ≤ maxDigits := by
      rw [← hd]
      exact (Nat.length_toDigits_le_iff (by decide) (by decide)).mpr h
    simp only [Numeral.value, List.isEmpty_nil, Option.isNone_none, Bool.and_self, if_true,
      if_neg (Nat.not_lt.mpr hlen), digitsValue_digitChars hl.small, hv, decide_eq_true_eq]
    congr 2
    omega

end Int

section Float

variable {d : Digits} {negative : Bool}

-- A numeral with a fraction or an exponent is worth the magnitude nearest to it.
theorem writes_decimal {exponent : Option Int} {e : List Char} (hw : Leads ws)
    (hf : ∀ d ∈ fs, d < 10) (he : WritesExponent exponent e) (hne : fs ≠ [] ∨ exponent ≠ none)
    (hx : ofDecimal (ofDecimalDigits (ws ++ fs)) (exponent.getD 0 - fs.length) = x) :
    Writes (signChars negative ++
      (digitChars ws ++ fractionChars (digitChars fs) ++ e)) (.float ⟨negative, x⟩) := by
  refine ⟨⟨negative, digitChars ws, digitChars fs, exponent⟩, e,
    ⟨hw.whole, isDigit_digitChars hf, he⟩, by simp [Numeral.chars], ?_⟩
  have hi : ((digitChars fs).isEmpty && exponent.isNone) = false := by
    rcases hne with hne | hne
    · simp [digitChars, hne]
    · simp [Option.isNone_eq_false_iff, Option.isSome_iff_ne_none, hne]
  have hs : ∀ d ∈ ws ++ fs, d < 10 := by
    intro d hd
    exact (List.mem_append.mp hd).elim (hw.small d) (hf d)
  have hlen : (digitChars fs).length = fs.length := List.length_map _
  simp only [Numeral.value, hi, ← digitChars_append, digitsValue_digitChars hs, hlen, hx]
  rfl

theorem writes_pointed (hw : Leads ws) (hf : ∀ d ∈ fs, d < 10) (hne : fs ≠ [])
    (hx : ofDecimal (ofDecimalDigits (ws ++ fs)) (-fs.length) = x) :
    Writes (signChars negative ++ (digitChars ws ++ '.' :: digitChars fs))
      (.float ⟨negative, x⟩) := by
  have h : Writes (signChars negative ++ (digitChars ws ++ fractionChars (digitChars fs) ++ []))
      (.float ⟨negative, x⟩) :=
    writes_decimal hw hf .absent (.inl hne) (by simpa using hx)
  obtain ⟨d, fs, rfl⟩ := List.exists_cons_of_ne_nil hne
  simpa [digitChars, fractionChars] using h

theorem writes_zerosBefore {p : Nat} (h : Digits.Denotes ⟨digits, .negSucc p⟩ x) :
    Writes (signChars negative ++ Digits.plain ⟨digits, .negSucc p⟩) (.float ⟨negative, x⟩) := by
  have ht : Digits.plain ⟨digits, .negSucc p⟩ =
      digitChars [0] ++ '.' :: digitChars (List.replicate (p + 1) 0 ++ digits) := by
    rw [digitChars_append, ← zeros_eq]
    rfl
  rw [ht]
  refine writes_pointed (.inl rfl) (zeros_append_small h.significant.small _) (by simp) ?_
  have hz : ofDecimalDigits ([0] ++ (List.replicate (p + 1) 0 ++ digits)) =
      ofDecimalDigits digits :=
    (ofDecimalDigits_zeros_append _ 1).trans (ofDecimalDigits_zeros_append digits (p + 1))
  rw [hz]
  convert h.reads_digits using 2
  simp
  omega

theorem writes_zerosAfter {p : Nat} (h : Digits.Denotes ⟨digits, p⟩ x) (hp : digits.length ≤ p) :
    Writes (signChars negative ++ (digitChars digits ++ zeros (p - digits.length) ++ ['.', '0']))
      (.float ⟨negative, x⟩) := by
  have ht : digitChars digits ++ zeros (p - digits.length) ++ ['.', '0'] =
      digitChars (digits ++ List.replicate (p - digits.length) 0) ++ '.' :: digitChars [0] := by
    rw [digitChars_append, zeros_eq, digitChars_zero]
  rw [ht]
  refine writes_pointed (.inr (h.significant.append_zeros _)) (by simp) (by simp) ?_
  rw [← h.reads (p - digits.length + 1), ← ofDecimalDigits_append_zeros, List.replicate_succ',
    ← List.append_assoc]
  congr 1
  simp [Digits.exponent]
  omega

theorem writes_plain (h : d.Denotes x) :
    Writes (signChars negative ++ d.plain) (.float ⟨negative, x⟩) := by
  obtain ⟨digits, point⟩ := d
  have hs : Significant digits := h.significant
  have hr : ofDecimal (ofDecimalDigits digits) (point - digits.length) = x := h.reads_digits
  cases point
  case negSucc p => exact writes_zerosBefore h
  case ofNat p =>
    simp only [Digits.plain]
    split
    case isTrue hp =>
      refine writes_pointed (.inl rfl) hs.small hs.ne_nil ?_
      rw [hp] at hr
      simpa [ofDecimalDigits] using hr
    split
    case isTrue hp => exact writes_zerosAfter h hp
    case isFalse hp =>
      refine writes_pointed (.inr (hs.take (by omega)))
        (fun e he => hs.small e (List.mem_of_mem_drop he)) (by simp; omega) ?_
      rw [List.take_append_drop, List.length_drop]
      convert hr using 2
      simp
      omega

theorem writesExponent {width : Nat} (hw : 0 < width) (e : Int) :
    let digits := digitChars (decimalDigits e.natAbs)
    WritesExponent (some e)
      ('e' :: (if e < 0 then '-' else '+') :: (zeros (width - digits.length) ++ digits)) := by
  intro digits
  let es := List.replicate (width - digits.length) 0 ++ decimalDigits e.natAbs
  have hes : ∀ d ∈ es, d < 10 := zeros_append_small (decimalDigits_small _) _
  have hc : zeros (width - digits.length) ++ digits = digitChars es := by
    rw [digitChars_append, zeros_eq]
  have hlen : 0 < (digitChars es).length := by
    rw [← hc, List.length_append, zeros, List.length_replicate]
    omega
  have hv : (if decide (e < 0) then Int.negOfNat (digitsValue (digitChars es))
      else .ofNat (digitsValue (digitChars es))) = e := by
    rw [digitsValue_digitChars hes, ofDecimalDigits_zeros_append, ofDecimalDigits_decimalDigits]
    cases e
    case ofNat => rfl
    case negSucc e =>
      rw [if_pos (decide_eq_true (Int.negSucc_lt_zero e))]
      rfl
  have he := WritesExponent.present (e < 0) (isDigit_digitChars hes)
    (List.ne_nil_of_length_pos hlen)
  rw [hv] at he
  rw [hc]
  simpa using he

theorem writes_scientific {layout : DecimalLayout} (hw : 0 < layout.exponentWidth)
    (h : d.Denotes x) :
    Writes (signChars negative ++ d.scientific layout) (.float ⟨negative, x⟩) := by
  obtain ⟨digits, point⟩ := d
  have hs : Significant digits := h.significant
  have hr : ofDecimal (ofDecimalDigits digits) (point - digits.length) = x := h.reads_digits
  obtain ⟨a, as, rfl, ha⟩ := hs.leading
  have ht : Digits.scientific layout ⟨a :: as, point⟩ =
      digitChars [a] ++ fractionChars (digitChars as) ++
        ('e' :: (if point - 1 < 0 then '-' else '+') ::
          (zeros (layout.exponentWidth - (digitChars (decimalDigits (point - 1).natAbs)).length) ++
            digitChars (decimalDigits (point - 1).natAbs))) := by
    cases as <;> simp [Digits.scientific, digitChars, fractionChars]
  rw [ht]
  refine writes_decimal (.inr (hs.take (k := 1) (by decide)))
    (fun d hd => hs.small d (List.mem_cons_of_mem a hd)) (writesExponent hw _)
    (.inr (Option.some_ne_none _)) ?_
  have he : (some (point - 1)).getD 0 - (as.length : Int) = point - (a :: as).length := by
    simp only [Option.getD_some, List.length_cons]
    omega
  rw [he]
  exact hr

theorem writes_float {x : Binary64} (h : x.magnitude < .infinity) :
    Writes (x.decimal jsonWords) (.float x) := by
  have hn : x.isNotANumber = false := decide_eq_false (Nat.lt_asymm h)
  have hi : x.isInfinite = false := decide_eq_false fun hi => Nat.lt_irrefl _ (hi ▸ h)
  have hd : x.decimal jsonWords = signChars x.negative ++ x.magnitude.decimal plainLayout := by
    simp [Binary64.decimal, hn, hi, signChars]
  rw [hd, Magnitude.decimal]
  split
  case isTrue hz =>
    have hx : x.magnitude = ⟨0⟩ := congrArg Magnitude.mk hz
    have hs : ∀ d ∈ [0], d < 10 := by simp
    exact writes_pointed (.inl rfl) hs (List.cons_ne_nil _ _) (hx ▸ ofDecimal_zero _)
  case isFalse hz =>
    have hd := denotes_shortestDigits (Nat.pos_of_ne_zero hz) h
    dsimp only
    split
    · exact writes_plain hd
    · exact writes_scientific (by decide) hd

end Float

end Enunciado.Json

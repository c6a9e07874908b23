import Mathlib.Data.List.DropRight
import Mathlib.Data.Nat.Digits.Lemmas
import Enunciado.Binary64.Decimal

namespace Enunciado

variable {n k : Nat} {ds es : List Nat}

section Value

theorem ofDecimalDigits_eq (ds : List Nat) : ofDecimalDigits ds = Nat.ofDigits 10 ds.reverse := by
  rw [ofDecimalDigits, Nat.ofDigits_eq_foldr, List.foldr_reverse]
  exact congrArg (List.foldl · 0 ds) (funext₂ fun n d => Nat.add_comm ..)

theorem ofDecimalDigits_append (ds es : List Nat) :
    ofDecimalDigits (ds ++ es) = ofDecimalDigits ds * 10 ^ es.length + ofDecimalDigits es := by
  simp only [ofDecimalDigits_eq, List.reverse_append, Nat.ofDigits_append, List.length_reverse]
  ring

theorem ofDecimalDigits_zeros (k : Nat) : ofDecimalDigits (List.replicate k 0) = 0 := by
  rw [ofDecimalDigits_eq, List.reverse_replicate, Nat.ofDigits_replicate_zero]

theorem ofDecimalDigits_append_zeros (ds : List Nat) (k : Nat) :
    ofDecimalDigits (ds ++ List.replicate k 0) = ofDecimalDigits ds * 10 ^ k := by
  simp [ofDecimalDigits_append, ofDecimalDigits_zeros]

theorem ofDecimalDigits_zeros_append (ds : List Nat) (k : Nat) :
    ofDecimalDigits (List.replicate k 0 ++ ds) = ofDecimalDigits ds := by
  simp [ofDecimalDigits_append, ofDecimalDigits_zeros]

theorem ofDecimalDigits_lt (h : ∀ d ∈ ds, d < 10) : ofDecimalDigits ds < 10 ^ ds.length := by
  rw [ofDecimalDigits_eq, ← List.length_reverse]
  exact Nat.ofDigits_lt_base_pow_length (by decide) (by simpa using h)

end Value

section Digits

-- Digits of which the first is no zero.
structure Significant (ds : List Nat) : Prop where
  small   : ∀ d ∈ ds, d < 10
  leading : ∃ d ds', ds = d :: ds' ∧ d ≠ 0

theorem decimalDigits_eq (n : Nat) : decimalDigits n = (Nat.digits 10 n).reverse := by
  induction n using Nat.strong_induction_on
  case h n hi =>
    rw [decimalDigits]
    split
    case isTrue h => simp [h]
    case isFalse h =>
      have hn : 0 < n := Nat.pos_of_ne_zero h
      rw [hi _ (Nat.div_lt_self hn (by decide)), Nat.digits_def' (by decide) hn,
        List.reverse_cons]

theorem length_decimalDigits_le_iff : (decimalDigits n).length ≤ k ↔ n < 10 ^ k := by
  rw [decimalDigits_eq, List.length_reverse]
  exact Nat.digits_length_le_iff (by decide) n

theorem lt_length_decimalDigits_iff : k < (decimalDigits n).length ↔ 10 ^ k ≤ n := by
  rw [← not_le, length_decimalDigits_le_iff, not_lt]

theorem decimalDigits_small (n : Nat) : ∀ d ∈ decimalDigits n, d < 10 := by
  intro d hd
  rw [decimalDigits_eq, List.mem_reverse] at hd
  exact Nat.digits_lt_base (by decide) hd

theorem significant_decimalDigits (h : n ≠ 0) : Significant (decimalDigits n) where
  small := decimalDigits_small n
  leading := by
    have hn : Nat.digits 10 n ≠ [] := Nat.digits_ne_nil_iff_ne_zero.mpr h
    refine ⟨(Nat.digits 10 n).getLast hn, (Nat.digits 10 n).dropLast.reverse, ?_,
      Nat.getLast_digit_ne_zero 10 h⟩
    rw [decimalDigits_eq, ← List.reverse_concat, List.dropLast_append_getLast]

namespace Significant

theorem decimalDigits_value (h : Significant ds) : decimalDigits (ofDecimalDigits ds) = ds := by
  obtain ⟨d, ds, rfl, hd⟩ := h.leading
  rw [decimalDigits_eq, ofDecimalDigits_eq, Nat.digits_ofDigits 10 (by decide),
    List.reverse_reverse]
  · exact fun d hd => h.small d (List.mem_reverse.mp hd)
  · intro _
    simpa using hd

theorem value_ne_zero (h : Significant ds) : ofDecimalDigits ds ≠ 0 := by
  intro hz
  obtain ⟨d, ds', rfl, -⟩ := h.leading
  have := h.decimalDigits_value
  simp [hz, decimalDigits] at this

theorem ne_nil (h : Significant ds) : ds ≠ [] := by
  obtain ⟨d, ds, rfl, -⟩ := h.leading
  exact List.cons_ne_nil d ds

theorem append_zeros (h : Significant ds) (k : Nat) :
    Significant (ds ++ List.replicate k 0) := by
  obtain ⟨d, ds', rfl, hd⟩ := h.leading
  refine ⟨fun e he => ?_, d, ds' ++ List.replicate k 0, rfl, hd⟩
  rcases List.mem_append.mp he with he | he
  · exact h.small e he
  · simp [List.eq_of_mem_replicate he]

theorem take (h : Significant ds) (hk : 0 < k) : Significant (ds.take k) := by
  obtain ⟨d, ds', rfl, hd⟩ := h.leading
  obtain ⟨k, rfl⟩ := Nat.exists_eq_succ_of_ne_zero hk.ne'
  exact ⟨fun e he => h.small e (List.mem_of_mem_take he), d, ds'.take k, rfl, hd⟩

theorem length_decimalDigits (h : Significant ds) (k : Nat) :
    (decimalDigits (ofDecimalDigits ds * 10 ^ k)).length = ds.length + k := by
  rw [← ofDecimalDigits_append_zeros, (h.append_zeros k).decimalDigits_value]
  simp

end Significant

-- Zeros at the end can be taken off.
theorem Significant.exists_trimmed (h : Significant ds) :
    let trimmed := (ds.reverse.dropWhile (· = 0)).reverse
    Significant trimmed ∧ ∃ z, ds = trimmed ++ List.replicate z 0 := by
  intro trimmed
  let zeros := ds.reverse.takeWhile (· = 0)
  have hz : zeros = List.replicate zeros.length 0 :=
    List.eq_replicate_of_mem fun d hd => by simpa using List.mem_takeWhile_imp hd
  have hd : ds = trimmed ++ List.replicate zeros.length 0 := by
    rw [← List.reverse_replicate, ← hz, ← List.reverse_append, List.takeWhile_append_dropWhile,
      List.reverse_reverse]
  refine ⟨⟨fun d hm => h.small d (hd ▸ List.mem_append_left _ hm), ?_⟩, _, hd⟩
  obtain ⟨d, ds', hds, hne⟩ := h.leading
  cases ht : trimmed
  case nil =>
    have hm : d ∈ List.replicate zeros.length 0 := by
      rw [ht, List.nil_append] at hd
      rw [← hd, hds]
      exact List.mem_cons_self
    exact absurd (List.eq_of_mem_replicate hm) hne
  case cons e trimmed' =>
    rw [ht, hds] at hd
    cases hd
    exact ⟨d, trimmed', rfl, hne⟩

end Digits

end Enunciado

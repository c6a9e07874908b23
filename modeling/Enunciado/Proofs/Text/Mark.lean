import Mathlib.Data.List.Perm.Basic
import Enunciado.Proofs.Text.Decomposition

namespace Enunciado.Text

-- The characters that `c` decomposes into, apart from the marks.
def starters (c : Char) : List Char :=
  (decomposeChar c).filter (combiningClass · = 0)

-- Two texts that have the same letters, up to marks, once they are in lower case, whatever text
-- they follow. Some marks are not skipped when one looks for case and end a word for a capital
-- sigma, so that marks can be swapped but not left out.
structure LowersAlike (s t : List Char) : Prop where
  case  : meetsCase s = meetsCase t
  strip : ∀ before, stripMarks (lowercase.go before s) = stripMarks (lowercase.go before t)

variable {before before' s t u : List Char} {c d : Char}

section Stripping

theorem placeMark_perm (c : Char) (s : List Char) : (placeMark c s).Perm (c :: s) := by
  induction s
  case nil => rfl
  case cons d s hi =>
    rw [placeMark]
    split
    case isTrue => exact (hi.cons d).trans (.swap c d s)
    case isFalse => rfl

theorem decompose_perm (s : List Char) : (decompose s).Perm (s.flatMap decomposeChar) := by
  unfold decompose
  induction s.flatMap decomposeChar
  case nil => rfl
  case cons c s hi => exact (placeMark_perm c _).trans (hi.cons c)

-- Only marks change their place, so that what is no mark keeps its order.
theorem filter_placeMark (c : Char) (s : List Char) :
    (placeMark c s).filter (combiningClass · = 0) = (c :: s).filter (combiningClass · = 0) := by
  induction s
  case nil => rfl
  case cons d s hi =>
    rw [placeMark]
    split
    case isTrue h =>
      have hc : combiningClass c ≠ 0 := by omega
      simp [hi, h.1, hc]
    case isFalse => rfl

theorem stripMarks_eq (s : List Char) : stripMarks s = s.flatMap starters := by
  unfold stripMarks decompose starters
  rw [← List.filter_flatMap]
  induction s.flatMap decomposeChar
  case nil => rfl
  case cons c s hi => rw [List.foldr_cons, filter_placeMark, List.filter_cons, hi, List.filter_cons]

theorem stripMarks_append : stripMarks (s ++ t) = stripMarks s ++ stripMarks t := by
  simp [stripMarks_eq]

theorem stripMarks_flatMap_decomposeChar (s : List Char) :
    stripMarks (s.flatMap decomposeChar) = stripMarks s := by
  rw [stripMarks_eq, stripMarks_eq, List.flatMap_assoc]
  refine List.flatMap_congr fun c _ => ?_
  have h : ∀ d ∈ decomposeChar c, starters d = [d].filter (combiningClass · = 0) := by
    intro d hd
    rw [starters, (decomposes c).decomposeChar_of_mem hd]
  rw [List.flatMap_congr h, ← List.filter_flatMap, List.flatMap_singleton', starters]

theorem stripMarks_mark (h : combiningClass c ≠ 0) : stripMarks [c] = [] := by
  rw [stripMarks_eq, List.flatMap_singleton, starters, List.filter_eq_nil_iff]
  intro d hd
  simpa using (decomposes c).marks h hd

end Stripping

section Lowering

theorem meetsCase_cons (c : Char) (s : List Char) :
    meetsCase (c :: s) = if isCaseIgnorable c then meetsCase s else isCased c := by
  unfold meetsCase
  rw [List.dropWhile_cons]
  cases isCaseIgnorable c <;> rfl

theorem lowercaseGo_congr (h : meetsCase before = meetsCase before') (s : List Char) :
    lowercase.go before s = lowercase.go before' s := by
  induction s generalizing before before'
  case nil => rfl
  case cons c s hi =>
    have hc : meetsCase (c :: before) = meetsCase (c :: before') := by simp [meetsCase_cons, h]
    rw [lowercase.go, lowercase.go, lowerSigma_congr h rfl, hi hc]

theorem lowercaseGo_of_sigma_not_mem (h : 'Σ' ∉ s) :
    lowercase.go before (s ++ t) = s.flatMap lowerChar ++ lowercase.go (s.reverse ++ before) t := by
  induction s generalizing before
  case nil => rfl
  case cons c s hi =>
    rw [List.mem_cons, not_or] at h
    rw [List.cons_append, lowercase.go, if_neg (Ne.symm h.1), hi h.2]
    simp

theorem stripMarks_lowercaseGo_mark (h : combiningClass c ≠ 0) :
    stripMarks (lowercase.go before (c :: s)) = stripMarks (lowercase.go (c :: before) s) := by
  rw [lowercase.go, if_neg (ne_sigma_of_mark h), lowerChar_mark h, stripMarks_append,
    stripMarks_mark h, List.nil_append]

-- A mark either is skipped when one looks for case or has none.
theorem meetsCase_swap (hc : combiningClass c ≠ 0) (hd : combiningClass d ≠ 0) :
    meetsCase (c :: d :: s) = meetsCase (d :: c :: s) := by
  simp only [meetsCase_cons, isCased_mark hc, isCased_mark hd]
  cases isCaseIgnorable c <;> simp

end Lowering

namespace LowersAlike

theorem refl (s : List Char) : LowersAlike s s :=
  ⟨rfl, fun _ => rfl⟩

theorem trans (h : LowersAlike s t) (h' : LowersAlike t u) : LowersAlike s u :=
  ⟨h.case.trans h'.case, fun before => (h.strip before).trans (h'.strip before)⟩

theorem cons (c : Char) (h : LowersAlike s t) : LowersAlike (c :: s) (c :: t) where
  case := by simp [meetsCase_cons, h.case]
  strip before := by
    rw [lowercase.go, lowercase.go, lowerSigma_congr rfl h.case, stripMarks_append,
      stripMarks_append, h.strip]

theorem swap (hc : combiningClass c ≠ 0) (hd : combiningClass d ≠ 0) (s : List Char) :
    LowersAlike (c :: d :: s) (d :: c :: s) where
  case := meetsCase_swap hc hd
  strip before := by
    simp only [stripMarks_lowercaseGo_mark, hc, hd, ne_eq, not_false_eq_true]
    rw [lowercaseGo_congr (meetsCase_swap hd hc)]

theorem placeMark (c : Char) (s : List Char) : LowersAlike (placeMark c s) (c :: s) := by
  induction s
  case nil => exact refl [c]
  case cons d s hi =>
    rw [Text.placeMark]
    split
    case isTrue h => exact (hi.cons d).trans (swap h.1 (by omega) s)
    case isFalse => exact refl (c :: d :: s)

theorem decomposeChar (c : Char) (s : List Char) : LowersAlike (decomposeChar c ++ s) (c :: s) where
  case := meetsCase_decomposeChar c s
  strip before := by
    by_cases h : c = 'Σ'
    case pos =>
      have hs : Text.decomposeChar 'Σ' = ['Σ'] := by decide +kernel
      rw [h, hs, List.singleton_append]
    case neg =>
      rw [lowercaseGo_of_sigma_not_mem ((decomposes c).sigma_not_mem h), lowercase.go, if_neg h,
        lowercaseGo_congr (meetsCase_reverse_decomposeChar c before), stripMarks_append,
        stripMarks_append, flatMap_lowerChar_decomposeChar, stripMarks_flatMap_decomposeChar]

-- A text is decomposed from its end, where what follows has the same letters already.
theorem decompose (s : List Char) : LowersAlike (decompose s) s := by
  have hp (t : List Char) : LowersAlike (t.foldr Text.placeMark []) t := by
    induction t
    case nil => exact refl []
    case cons c t hi => exact (placeMark c _).trans (hi.cons c)
  have hd : LowersAlike (s.flatMap Text.decomposeChar) s := by
    induction s
    case nil => exact refl []
    case cons c s hi => exact (decomposeChar c _).trans (hi.cons c)
  exact (hp _).trans hd

end LowersAlike

theorem stripMarks_lowercase_decompose (s : List Char) :
    stripMarks (lowercase (decompose s)) = stripMarks (lowercase s) :=
  (LowersAlike.decompose s).strip []

end Enunciado.Text

import Mathlib.Data.List.Basic
import Enunciado.Proofs.Text.CodeRange
import Enunciado.Text.Lowercase
import Enunciado.Text.Word

namespace Enunciado.Text

section Parting

variable {before after s t : List Char}

theorem meetsCase_append (h : meetsCase t = false) (s : List Char) :
    meetsCase (s ++ t) = meetsCase s := by
  unfold meetsCase at *
  rw [List.dropWhile_append]
  cases s.dropWhile isCaseIgnorable
  case nil => exact h
  case cons => rfl

theorem lowerSigma_congr (hb : meetsCase before = meetsCase before')
    (ha : meetsCase after = meetsCase after') :
    lowerSigma before after = lowerSigma before' after' := by
  rw [lowerSigma, hb, ha, lowerSigma]

theorem lowercaseGo_append (h : meetsCase t = false) (before s : List Char) :
    lowercase.go before (s ++ t) = lowercase.go before s ++ lowercase.go (s.reverse ++ before) t := by
  induction s generalizing before
  case nil => rfl
  case cons c s hi =>
    rw [List.cons_append, lowercase.go, lowercase.go, hi, List.append_assoc,
      lowerSigma_congr rfl (meetsCase_append h s), List.reverse_cons, List.append_assoc,
      List.singleton_append]

theorem lowercaseGo_before (h : meetsCase before = false) (s t : List Char) :
    lowercase.go (s ++ before) t = lowercase.go s t := by
  induction t generalizing s
  case nil => rfl
  case cons c t hi =>
    rw [lowercase.go, lowercase.go, lowerSigma_congr (meetsCase_append h s) rfl,
      ← List.cons_append, hi]

-- After a period and a space, the case of letters does not depend on what went before.
theorem lowercase_append (s t : List Char) :
    lowercase (s ++ '.' :: ' ' :: t) = lowercase s ++ '.' :: ' ' :: lowercase t := by
  have ha : meetsCase ('.' :: ' ' :: t) = false := by
    simp [meetsCase, show isCaseIgnorable '.' = true by decide +kernel,
      show isCaseIgnorable ' ' = false by decide +kernel, show isCased ' ' = false by decide +kernel]
  have hb : meetsCase (' ' :: '.' :: s.reverse) = false := by
    simp [meetsCase, show isCaseIgnorable ' ' = false by decide +kernel,
      show isCased ' ' = false by decide +kernel]
  have hp : lowerChar '.' = ['.'] := by decide +kernel
  have hs : lowerChar ' ' = [' '] := by decide +kernel
  have hg : lowercase.go (' ' :: '.' :: s.reverse) t = lowercase.go [] t :=
    lowercaseGo_before hb [] t
  unfold lowercase
  rw [lowercaseGo_append ha, List.append_nil, lowercase.go, lowercase.go, hg]
  simp [hp, hs]

end Parting

section Forms

-- `Lowers c d` says that `d` is a lower-case form of `c`.
inductive Lowers : Char → Char → Prop
  | same {c} : Lowers c c
  | run {c d r} : r ∈ caseRuns → r.lower? c.toNat = some d.toNat → Lowers c d
  | sigma {d} : d = 'σ' ∨ d = 'ς' → Lowers 'Σ' d

-- `Lowered s t` says that `t` is the text `s` in lower case, both given backwards.
inductive Lowered : List Char → List Char → Prop
  | nil : Lowered [] []
  | cons {c d s t} : Lowers c d → Lowered s t → Lowered (c :: s) (d :: t)
  | dotted {s t} : Lowered s t → Lowered ('İ' :: s) ('\u0307' :: 'i' :: t)

variable {c d : Char} {before s t : List Char} {r : CaseRun}

theorem CaseRun.lower?_eq_some (h : r.lower? n = some m) :
    r.first ≤ n ∧ n ≤ r.last ∧ m = r.target + (n - r.first) := by
  unfold CaseRun.lower? at h
  split at h <;> simp_all

-- The lower-case forms of a run are characters.
def CaseRun.isProper (r : CaseRun) : Bool :=
  let last := r.target + (r.last - r.first)
  decide (last < 0xD800) || decide (0xDFFF < r.target) && decide (last < 0x110000)

theorem isValidChar_of_lower? (hr : r ∈ caseRuns) (h : r.lower? n = some m) : m.isValidChar := by
  have ⟨h₁, h₂, hm⟩ := CaseRun.lower?_eq_some h
  have hp : caseRuns.all (·.isProper) = true := by decide +kernel
  have hp := List.all_eq_true.mp hp r hr
  simp only [CaseRun.isProper, Bool.or_eq_true, Bool.and_eq_true, decide_eq_true_eq] at hp
  rw [Nat.isValidChar]
  omega

theorem exists_lowers (h : c ≠ 'İ') : ∃ d, lowerChar c = [d] ∧ Lowers c d := by
  unfold lowerChar
  rw [if_neg h]
  split
  case h_1 n hn =>
    have ⟨r, hr, hl⟩ := List.exists_of_findSome?_eq_some hn
    refine ⟨_, rfl, .run hr ?_⟩
    rw [hl, Char.ofNat, dif_pos (isValidChar_of_lower? hr hl)]
    rfl
  case h_2 => exact ⟨c, rfl, .same⟩

theorem Lowered.go (h : Lowered before t) (s : List Char) :
    Lowered (s.reverse ++ before) ((lowercase.go before s).reverse ++ t) := by
  induction s generalizing before t
  case nil => exact h
  case cons c s hi =>
    rw [lowercase.go, List.reverse_cons, List.append_assoc, List.reverse_append, List.append_assoc]
    refine hi ?_
    split
    case isTrue hc =>
      subst hc
      refine .cons (.sigma ?_) h
      unfold lowerSigma
      split <;> simp
    case isFalse =>
      by_cases hd : c = 'İ'
      case pos =>
        subst hd
        exact .dotted h
      case neg =>
        obtain ⟨d, hl, hd⟩ := exists_lowers hd
        rw [hl]
        exact .cons hd h

theorem lowered (s : List Char) : Lowered s.reverse (lowercase s).reverse := by
  simpa [lowercase] using Lowered.nil.go s

theorem Lowered.exists_lowers (h : Lowered s t) (hd : d ∈ t) (hi : d ≠ '\u0307' ∧ d ≠ 'i') :
    ∃ c ∈ s, Lowers c d := by
  induction h
  case nil => contradiction
  case cons c _ _ _ hc _ hr =>
    obtain rfl | hd := List.mem_cons.mp hd
    case inl => exact ⟨c, by simp, hc⟩
    case inr =>
      have ⟨c, hm, hc⟩ := hr hd
      exact ⟨c, by simp [hm], hc⟩
  case dotted hr =>
    have ⟨c, hm, hc⟩ := hr (by simpa [hi] using hd)
    exact ⟨c, by simp [hm], hc⟩

-- Whether only `upper` has the lower-case form `lower` in a run.
def CaseRun.lowersOnly (upper lower : Char) (r : CaseRun) : Bool :=
  decide (lower.toNat < r.target) || decide (r.target + (r.last - r.first) < lower.toNat) ||
    decide (r.first + (lower.toNat - r.target) = upper.toNat)

theorem eq_of_lowers (ho : caseRuns.all (·.lowersOnly u d)) (hd : d ≠ 'σ' ∧ d ≠ 'ς')
    (h : Lowers c d) : c = d ∨ c = u := by
  cases h
  case same => exact .inl rfl
  case run r hr hl =>
    have ⟨h₁, h₂, hm⟩ := CaseRun.lower?_eq_some hl
    have ho := List.all_eq_true.mp ho r hr
    simp only [CaseRun.lowersOnly, Bool.or_eq_true, decide_eq_true_eq] at ho
    refine .inr (Char.toNat_inj.mp ?_)
    omega
  case sigma h => simp_all

-- Whether the letters of a run stay letters, if they are.
def CaseRun.keepsWords (r : CaseRun) : Bool :=
  spans alphanumeric r.target (r.target + (r.last - r.first)) ||
    apart [(r.first, r.last)] alphanumeric

theorem isAlphanumeric_of_lower? (hr : r ∈ caseRuns) (h : r.lower? c.toNat = some d.toNat)
    (hc : isAlphanumeric c) : isAlphanumeric d := by
  have ⟨h₁, h₂, hm⟩ := CaseRun.lower?_eq_some h
  have hk : caseRuns.all (·.keepsWords) = true := by decide +kernel
  have hk := List.all_eq_true.mp hk r hr
  rw [CaseRun.keepsWords, Bool.or_eq_true] at hk
  obtain hk | hk := hk
  case inl => exact covers_of_spans hk (by omega) (by omega)
  case inr =>
    have hl : covers [(r.first, r.last)] c.toNat := by simp [covers, h₁, h₂]
    have hn : isAlphanumeric c = false := not_covers_of_apart hk hl
    exact absurd hc (by simp [hn])

theorem isWordChar_of_lowers (h : Lowers c d) (hc : isWordChar c) : isWordChar d := by
  cases h
  case same => exact hc
  case run r hr hl =>
    by_cases ha : isAlphanumeric c
    case pos => simp [isWordChar, isAlphanumeric_of_lower? hr hl ha]
    case neg =>
      obtain rfl : c = '_' := by simpa [isWordChar, ha] using hc
      have hu : caseRuns.all fun r => (r.lower? '_'.toNat).isNone := by decide +kernel
      have hu := List.all_eq_true.mp hu r hr
      rw [hl] at hu
      cases hu
  case sigma h => obtain rfl | rfl := h <;> decide +kernel

end Forms

end Enunciado.Text

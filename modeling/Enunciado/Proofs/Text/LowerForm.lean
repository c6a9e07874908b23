import Enunciado.Proofs.Text.Mark

namespace Enunciado.Text

variable {c d : Char} {s : List Char} {r : CaseRun} {n m : Nat}

section Codes

-- The lower-case forms of a run.
def CaseRun.forms (r : CaseRun) : List Nat :=
  (List.range ((r.last - r.first) / r.step + 1)).map fun i => r.target + r.step * i

theorem CaseRun.mem_forms (h : r.lower? n = some m) : m ∈ r.forms := by
  unfold CaseRun.lower? at h
  split at h
  case isFalse => cases h
  case isTrue hc =>
    simp only [Bool.and_eq_true, decide_eq_true_eq, beq_iff_eq] at hc
    refine List.mem_map.mpr ⟨(n - r.first) / r.step, ?_, ?_⟩
    · exact List.mem_range.mpr (Nat.lt_succ_of_le (Nat.div_le_div_right (by omega)))
    · rw [Nat.mul_div_cancel' (Nat.dvd_of_mod_eq_zero hc.2)]
      exact Option.some.inj h

-- Whether the code point is its own lower-case form, and not of a letter with forms of its own.
def isLowCode (n : Nat) : Bool :=
  lowerCode n == n && n != 0x3A3 && n != 0x130

theorem isLowCode_of_lower? (hr : r ∈ caseRuns) (h : r.lower? n = some m) : isLowCode m := by
  have hf : caseRuns.all fun r => r.forms.all isLowCode := by decide +kernel
  exact List.all_eq_true.mp (List.all_eq_true.mp hf r hr) m (CaseRun.mem_forms h)

theorem lowerCode_cases (n : Nat) :
    lowerCode n = n ∨ ∃ r ∈ caseRuns, r.lower? n = some (lowerCode n) := by
  unfold lowerCode
  cases (bits capitals).testBit n
  case false => exact .inl rfl
  case true =>
    rw [cond_true]
    cases h : (caseRuns.find? fun r => Nat.ble n r.last).bind (·.lower? n)
    case none => exact .inl rfl
    case some m =>
      obtain ⟨r, hr, hl⟩ := Option.bind_eq_some_iff.mp h
      exact .inr ⟨r, List.mem_of_find?_eq_some hr, hl⟩

end Codes

-- A character that is its own lower-case form wherever it stands.
structure IsLow (c : Char) : Prop where
  noSigma : c ≠ 'Σ'
  lower   : lowerChar c = [c]

instance (c : Char) : Decidable (IsLow c) :=
  decidable_of_iff (c ≠ 'Σ' ∧ lowerChar c = [c]) ⟨fun h => ⟨h.1, h.2⟩, fun h => ⟨h.1, h.2⟩⟩

theorem isLow_of_isLowCode (h : isLowCode c.toNat) : IsLow c := by
  simp only [isLowCode, Bool.and_eq_true, beq_iff_eq, bne_iff_ne] at h
  obtain ⟨⟨hl, hs⟩, hi⟩ := h
  refine ⟨fun hc => hs (by rw [hc]; rfl), ?_⟩
  rw [lowerChar_eq fun hc => hi (by rw [hc]; rfl), hl, Char.ofNat_toNat]

theorem isLow_of_mem_lowerChar (hc : c ≠ 'Σ') (hd : d ∈ lowerChar c) : IsLow d := by
  by_cases hi : c = 'İ'
  case pos =>
    subst hi
    obtain rfl | rfl : d = 'i' ∨ d = '\u0307' := by simpa [lowerChar] using hd
    all_goals decide +kernel
  case neg =>
    have hl := lowerChar_eq hi
    rw [hl, List.mem_singleton] at hd
    obtain hn | ⟨r, hr, hn⟩ := lowerCode_cases c.toNat
    case inl =>
      rw [hn, Char.ofNat_toNat] at hl hd
      exact hd ▸ ⟨hc, hl⟩
    case inr =>
      refine isLow_of_isLowCode ?_
      rw [hd, toNat_ofNat (isValidChar_of_lower? hr hn)]
      exact isLowCode_of_lower? hr hn

theorem isLow_of_mem_lowercase (h : d ∈ lowercase s) : IsLow d := by
  unfold lowercase at h
  generalize [] = before at h
  induction s generalizing before
  case nil => contradiction
  case cons c s hi =>
    rw [lowercase.go, List.mem_append] at h
    obtain h | h := h
    case inr => exact hi _ h
    case inl =>
      split at h
      case isTrue =>
        obtain rfl | rfl : d = 'ς' ∨ d = 'σ' := by
          rw [List.mem_singleton, lowerSigma] at h
          split at h <;> simp [h]
        all_goals decide +kernel
      case isFalse hc => exact isLow_of_mem_lowerChar hc h

theorem lowercase_eq_self (h : ∀ c ∈ s, IsLow c) : lowercase s = s := by
  have hs : 'Σ' ∉ s := fun hm => (h _ hm).noSigma rfl
  have hl : lowercase.go [] (s ++ []) = s.flatMap lowerChar ++ lowercase.go (s.reverse ++ []) [] :=
    lowercaseGo_of_sigma_not_mem hs
  rw [List.append_nil, lowercase.go, List.append_nil] at hl
  rw [lowercase, hl, List.flatMap_congr fun c hc => (h c hc).lower, List.flatMap_singleton']

end Enunciado.Text

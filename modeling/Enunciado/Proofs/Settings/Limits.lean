import Enunciado.Proofs.Binary64.Decimal
import Enunciado.Proofs.Json.Writer
import Enunciado.Proofs.Traversal
import Enunciado.Settings.Basic

namespace Enunciado

namespace Number

variable {l m n : Number} {k : Int}

-- What is no number is before nothing and after nothing.
def isNotANumber : Number → Bool
  | float x => x.isNotANumber
  | _ => false

theorem place?_eq_none_iff : n.place? = none ↔ n.isNotANumber := by
  cases n
  case float x =>
    rw [place?, isNotANumber]
    split
    case isTrue h => simp [h]
    case isFalse h => split <;> simp [h]
  all_goals simp [place?, isNotANumber]

theorem exists_place? (h : n.isNotANumber = false) : ∃ p, n.place? = some p := by
  rw [← Option.ne_none_iff_exists', Ne, place?_eq_none_iff, h]
  simp

-- Two numbers are in order one way or the other.
theorem le_of_not_lt (hm : m.isNotANumber = false) (hn : n.isNotANumber = false)
    (h : n.lt m = false) : m.le n := by
  obtain ⟨p, hp⟩ := exists_place? hm
  obtain ⟨q, hq⟩ := exists_place? hn
  rw [lt, hp, hq] at h
  rw [le, hp, hq]
  simpa using h

theorem isNotANumber_of_le (h : m.le n) : m.isNotANumber = false := by
  cases hm : m.isNotANumber
  case false => rfl
  case true =>
    rw [le, place?_eq_none_iff.mpr hm] at h
    cases h

theorem not_lt_of_le (h : m.le n) : n.lt m = false := by
  unfold le at h
  unfold lt
  cases hm : m.place? <;> cases hn : n.place? <;> simp_all

theorem le_iff_not_lt (hm : m.isNotANumber = false) (hn : n.isNotANumber = false) :
    m.le n ↔ n.lt m = false :=
  ⟨not_lt_of_le, le_of_not_lt hm hn⟩

theorem not_lt_of_isNotANumber (h : n.isNotANumber) : n.lt m = false := by
  rw [lt, place?_eq_none_iff.mpr h]

theorem le_trans (hk : l.le m) (hm : m.le n) : l.le n := by
  obtain ⟨p, hp⟩ := exists_place? (isNotANumber_of_le hk)
  obtain ⟨q, hq⟩ := exists_place? (isNotANumber_of_le hm)
  unfold le at hk hm ⊢
  rw [hp, hq] at hk
  rw [hq] at hm
  rw [hp]
  cases hr : n.place?
  case none => rw [hr] at hm; cases hm
  case some r =>
    rw [hr] at hm
    cases p <;> cases q <;> cases r <;> simp_all [Place.lt]
    omega

theorem le_of_integer? (h : (int k).le n) (hn : n.integer? = some j) : k ≤ j := by
  have hu : (0 : Int) < Magnitude.unitsPerOne := Int.natCast_pos.mpr Magnitude.unitsPerOne_pos
  have hp : n.place? = some (ofInt j) := by
    cases n <;> cases hn <;> rfl
  rw [le, hp] at h
  simp only [place?, ofInt, Place.lt, Bool.not_eq_true', decide_eq_false_iff_not, Int.not_lt] at h
  exact Int.le_of_mul_le_mul_right h hu

-- Numbers from one to the number of letters are short.
theorem hasLong_eq_false_of_le (h : (int 1).le n) (hn : n.le (.int alphabetSize)) :
    n.toJson.hasLong = false := by
  cases n
  case int k =>
    have h₁ : 1 ≤ k := le_of_integer? h rfl
    have h₂ : k ≤ alphabetSize := le_of_integer? hn rfl
    simp only [toJson, Json.hasLong]
    rw [← Bool.not_eq_true, Json.isLong_int, Nat.not_le]
    have ha : alphabetSize < 10 ^ 2 := by decide
    have hp : 10 ^ 2 ≤ 10 ^ Json.maxDigits := Nat.pow_le_pow_right (by decide) (by decide)
    omega
  all_goals rfl

end Number

namespace Settings

variable {s : Settings}

-- The limits of accepted settings. A comparison with what is no number does not refuse it.
structure Limited (s : Settings) : Prop where
  positive     : (Number.int 1).le s.minPropositions
  propositions : s.minPropositions.le s.maxPropositions
  letters      : s.maxPropositions.le (.int alphabetSize)
  minLength    : s.minTextLength.isNotANumber ∨ (Number.int 1).le s.minTextLength
  textLength   : s.minTextLength.isNotANumber ∨ s.maxTextLength.isNotANumber ∨
    s.minTextLength.le s.maxTextLength
  entries      : s.historyMaxEntries.isNotANumber ∨ (Number.int 1).le s.historyMaxEntries

-- How many propositions there may be can always be written.
theorem Limited.writable (hs : s.Limited) :
    s.minPropositions.toJson.hasLong = false ∧ s.maxPropositions.toJson.hasLong = false :=
  ⟨Number.hasLong_eq_false_of_le hs.positive (Number.le_trans hs.propositions hs.letters),
    Number.hasLong_eq_false_of_le (Number.le_trans hs.positive hs.propositions) hs.letters⟩

theorem bothNumbers_eq_ok_iff {relation : String} {v w : Json} {p : Number × Number} :
    bothNumbers relation v w = .ok p ↔
      Number.ofJson? v = some p.1 ∧ Number.ofJson? w = some p.2 := by
  unfold bothNumbers
  split
  case h_1 hv hw => simp [hv, hw, Prod.ext_iff]
  case h_2 h =>
    simp only [reduceCtorEq, false_iff, not_and]
    exact h p.1 p.2

-- Unless it is no number, a limit that is not before a number is at it or after it.
theorem within_of_not_lt {m n : Number} (hm : m.isNotANumber = false) (h : ¬n.lt m) :
    n.isNotANumber ∨ m.le n := by
  cases hn : n.isNotANumber
  case true => exact .inl rfl
  case false => exact .inr (Number.le_of_not_lt hm hn (by simpa using h))

theorem limited_of_check {maxP minP minT maxT size strict : Json}
    (h : check maxP minP minT maxT size strict = .ok s) : s.Limited := by
  unfold check at h
  simp only [bind_eq_ok_iff, bothNumbers_eq_ok_iff, throw_if_eq_ok_iff, Bool.not_eq_true',
    Bool.not_eq_false, Bool.and_eq_true] at h
  obtain ⟨⟨m, _⟩, ⟨hm, ⟨rfl⟩⟩, hone, h⟩ := h
  obtain ⟨⟨m', n⟩, ⟨hm', -⟩, ⟨hmn, hn⟩, h⟩ := h
  obtain rfl : m = m' := Option.some.inj (hm.symm.trans hm')
  obtain ⟨⟨t, _⟩, ⟨ht, ⟨rfl⟩⟩, htone, h⟩ := h
  obtain ⟨⟨u, t'⟩, ⟨-, ht'⟩, htu, h⟩ := h
  obtain rfl : t = t' := Option.some.inj (ht.symm.trans ht')
  obtain ⟨⟨size, _⟩, ⟨-, ⟨rfl⟩⟩, hsize, ⟨rfl⟩⟩ := h
  refine ⟨?_, hmn, hn, within_of_not_lt rfl htone, ?_, within_of_not_lt rfl hsize⟩
  · exact (within_of_not_lt rfl hone).resolve_left (by simp [Number.isNotANumber_of_le hmn])
  · cases htn : t.isNotANumber
    case true => exact .inl rfl
    case false => exact .inr (within_of_not_lt htn htu)

theorem limited_of_accepted {fields : List (String × Json)} (h : ofJson (.obj fields) = .ok s) :
    s.Limited := by
  rw [ofJson, ofFields] at h
  split at h
  case h_1 => cases h
  case h_2 => exact limited_of_check h

end Settings

end Enunciado

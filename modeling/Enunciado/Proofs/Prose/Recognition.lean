import Mathlib.Data.List.Find
import Mathlib.Tactic.GCongr
import Mathlib.Tactic.Linarith
import Enunciado.Proofs.Prose.Preference

namespace Enunciado.Prose

open Magnitude

section Boost

-- A part of the words of a meaning, raised for a clause of `n` words.
def boosted (part : Magnitude) (n : Nat) : Magnitude :=
  part.add ((part.times n).divide boostLength)

theorem score_eq (ws : List (List Char)) (meaning : List Char) :
    score ws meaning =
      if (foldedWords meaning).countP (ws.contains ·) = 0 then ⟨0⟩
      else boosted (ofRatio ((foldedWords meaning).countP (ws.contains ·))
        (foldedWords meaning).length) ws.length :=
  rfl

def whole : Magnitude :=
  ofRatio 1 1

-- The greatest part of up to two to the 50th words that is not the whole.
def almostWhole : Magnitude :=
  ofRatio (2 ^ 50 - 1) (2 ^ 50)

-- The two are one and close to it, and far enough apart for three roundings.
theorem whole_bounds :
    (unitsPerOne ≤ 2 * whole.units ∧ whole.units ≤ unitsPerOne) ∧
    (unitsPerOne ≤ 2 * almostWhole.units ∧ almostWhole.units ≤ unitsPerOne) ∧
    almostWhole.units * (twoTo 53 + 1) ^ 3 < whole.units * (twoTo 53 - 1) ^ 3 ∧
    ⟨0⟩ < whole ∧ threshold ≤ whole := by
  decide +kernel

theorem whole_pos : (⟨0⟩ : Magnitude) < whole :=
  whole_bounds.2.2.2.1

theorem threshold_le_whole : threshold ≤ whole :=
  whole_bounds.2.2.2.2

variable {x y : Magnitude} {n : Nat}

theorem boosted_mono (h : x ≤ y) (n : Nat) : boosted x n ≤ boosted y n :=
  add_mono h (divide_mono (times_mono h n) (by decide))

theorem whole_le_boosted (n : Nat) : whole ≤ boosted whole n := by
  have h : nearestUnits whole.units 1 = whole := nearestUnits_units (by decide +kernel)
  calc
    whole = nearestUnits whole.units 1 := h.symm
    _ ≤ boosted whole n :=
      nearestUnits_mono Nat.one_pos Nat.one_pos (Nat.mul_le_mul_right _ (Nat.le_add_right ..))

-- What three roundings add up to, each of which adds one part in `t` or less.
theorem rounded_up_thrice {t u n y w v : Nat} (h₁ : y * t ≤ u * n * (t + 1))
    (h₂ : w * 10 * t ≤ y * (t + 1)) (h₃ : v * t ≤ (u + w) * (t + 1)) :
    v * (10 * t ^ 3) ≤ u * (10 + n) * (t + 1) ^ 3 := by
  calc
    v * (10 * t ^ 3) = v * t * (10 * t ^ 2) := by ring
    _ ≤ (u + w) * (t + 1) * (10 * t ^ 2) := by gcongr ?_ * _
    _ = (t + 1) * (10 * u * t ^ 2 + w * 10 * t * t) := by ring
    _ ≤ (t + 1) * (10 * u * t ^ 2 + y * (t + 1) * t) := by gcongr _ * (_ + ?_ * _)
    _ = (t + 1) * (10 * u * t ^ 2 + y * t * (t + 1)) := by ring
    _ ≤ (t + 1) * (10 * u * t ^ 2 + u * n * (t + 1) * (t + 1)) := by
      gcongr _ * (_ + ?_ * _)
    _ ≤ (t + 1) * (10 * u * (t + 1) ^ 2 + u * n * (t + 1) * (t + 1)) := by
      gcongr; exact Nat.le_succ t
    _ = u * (10 + n) * (t + 1) ^ 3 := by ring

-- What three roundings take away, with `t - 1` for `r`.
theorem rounded_down_thrice {r t u n y w v : Nat} (hr : r ≤ t) (h₁ : u * n * r ≤ y * t)
    (h₂ : y * r ≤ w * 10 * t) (h₃ : (u + w) * r ≤ v * t) :
    u * (10 + n) * r ^ 3 ≤ v * (10 * t ^ 3) := by
  calc
    u * (10 + n) * r ^ 3 = r * (10 * u * r ^ 2 + u * n * r * r) := by ring
    _ ≤ r * (10 * u * t ^ 2 + u * n * r * r) := by gcongr
    _ ≤ r * (10 * u * t ^ 2 + y * t * r) := by gcongr _ * (_ + ?_ * _)
    _ = r * (10 * u * t ^ 2 + y * r * t) := by ring
    _ ≤ r * (10 * u * t ^ 2 + w * 10 * t * t) := by gcongr _ * (_ + ?_ * _)
    _ = (u + w) * r * (10 * t ^ 2) := by ring
    _ ≤ v * t * (10 * t ^ 2) := by gcongr ?_ * _
    _ = v * (10 * t ^ 3) := by ring

-- Of the three times that a score is rounded, each changes it by less than one part in two to the
-- 53rd.
theorem boosted_near (hl : unitsPerOne ≤ 2 * x.units) (hu : x.units ≤ unitsPerOne) (hn : 0 < n)
    (hn' : n ≤ 2 ^ 50) :
    (boosted x n).units * (10 * twoTo 53 ^ 3) ≤ x.units * (10 + n) * (twoTo 53 + 1) ^ 3 ∧
      x.units * (10 + n) * (twoTo 53 - 1) ^ 3 ≤ (boosted x n).units * (10 * twoTo 53 ^ 3) := by
  have hb : boosted x n = x.add ((x.times n).divide 10) := rfl
  have hsmall : 80 * twoTo 52 ≤ unitsPerOne := by decide +kernel
  have hlarge : 8 * (unitsPerOne * 2 ^ 50) < twoTo 2000 := by decide +kernel
  have near {n d : Nat} (hd : 0 < d) (hl : d * twoTo 52 ≤ n) (hu : n < d * twoTo 2000) :
      Near (nearestUnits n d) n d :=
    near_nearestUnits hd hl hu
  have hp : x.units ≤ x.units * n := Nat.le_mul_of_pos_right _ hn
  have hp' : x.units * n ≤ unitsPerOne * 2 ^ 50 := Nat.mul_le_mul hu hn'
  -- The bounds have names, so that none of them is computed.
  generalize twoTo 52 = least at hsmall near
  generalize twoTo 2000 = most at hlarge near
  generalize unitsPerOne = unit at *
  have h₁ : Near (x.times n) (x.units * n) 1 := near Nat.one_pos (by omega) (by omega)
  have h₁' := h₁.half_le
  have h₁'' := h₁.le_double
  have h₂ : Near ((x.times n).divide 10) (x.times n).units 10 :=
    near (by decide) (by omega) (by omega)
  have h₂' := h₂.le_double
  have h₃ : Near (x.add ((x.times n).divide 10)) (x.units + ((x.times n).divide 10).units) 1 :=
    near Nat.one_pos (by omega) (by omega)
  have hr : twoTo 53 - 1 ≤ twoTo 53 := Nat.sub_le ..
  rw [hb]
  exact ⟨rounded_up_thrice (by simpa using h₁.le) h₂.le (by simpa using h₃.le),
    rounded_down_thrice hr (by simpa using h₁.ge) h₂.ge (by simpa using h₃.ge)⟩

-- A part that is not the whole falls short of it by more than rounding can make up for.
theorem boosted_lt (h : x ≤ almostWhole) (hn : 0 < n) (hn' : n ≤ 2 ^ 50) :
    boosted x n < boosted whole n := by
  refine lt_of_le_of_lt (boosted_mono h n) (not_le.mp fun hle => ?_)
  have ⟨hup, _⟩ := boosted_near whole_bounds.2.1.1 whole_bounds.2.1.2 hn hn'
  have ⟨_, hdown⟩ := boosted_near whole_bounds.1.1 whole_bounds.1.2 hn hn'
  have hmul : (10 + n) * (whole.units * (twoTo 53 - 1) ^ 3) ≤
      (10 + n) * (almostWhole.units * (twoTo 53 + 1) ^ 3) := by
    calc
      (10 + n) * (whole.units * (twoTo 53 - 1) ^ 3) =
          whole.units * (10 + n) * (twoTo 53 - 1) ^ 3 := by ring
      _ ≤ (boosted whole n).units * (10 * twoTo 53 ^ 3) := hdown
      _ ≤ (boosted almostWhole n).units * (10 * twoTo 53 ^ 3) := by gcongr; exact units_mono hle
      _ ≤ almostWhole.units * (10 + n) * (twoTo 53 + 1) ^ 3 := hup
      _ = (10 + n) * (almostWhole.units * (twoTo 53 + 1) ^ 3) := by ring
  exact absurd (Nat.le_of_mul_le_mul_left hmul (by omega)) (Nat.not_le.mpr whole_bounds.2.2.1)

end Boost

section Score

variable {ws : List (List Char)} {meaning : List Char}

-- Whether a meaning says nothing but these words.
def coveredBy (ws : List (List Char)) (meaning : List Char) : Bool :=
  (foldedWords meaning).all (ws.contains ·)

theorem ofRatio_self {n : Nat} (hn : 0 < n) : ofRatio n n = whole :=
  ofRatio_congr hn Nat.one_pos (by rw [Nat.mul_one, Nat.one_mul])

theorem score_of_coveredBy (hm : foldedWords meaning ≠ []) (h : coveredBy ws meaning) :
    score ws meaning = boosted whole ws.length := by
  have hp := List.length_pos_iff.mpr hm
  have hc : (foldedWords meaning).countP (ws.contains ·) = (foldedWords meaning).length :=
    List.countP_eq_length.mpr (List.all_eq_true.mp h)
  rw [score_eq, hc, if_neg hp.ne', ofRatio_self hp]

theorem score_le (ws : List (List Char)) (meaning : List Char) :
    score ws meaning ≤ boosted whole ws.length := by
  rw [score_eq]
  split
  case isTrue => exact Nat.zero_le _
  case isFalse h =>
    have hl := List.countP_le_length (p := (ws.contains ·)) (l := foldedWords meaning)
    refine boosted_mono (ofRatio_mono (by omega) Nat.one_pos ?_) _
    omega

theorem score_lt (h : coveredBy ws meaning = false) (hl : (foldedWords meaning).length ≤ 2 ^ 50)
    (hw : 0 < ws.length) (hw' : ws.length ≤ 2 ^ 50) :
    score ws meaning < boosted whole ws.length := by
  have hc : (foldedWords meaning).countP (ws.contains ·) < (foldedWords meaning).length := by
    refine Nat.lt_of_le_of_ne List.countP_le_length fun hc => ?_
    rw [coveredBy, List.all_eq_true.mpr (List.countP_eq_length.mp hc)] at h
    contradiction
  rw [score_eq]
  split
  case isTrue => exact lt_of_lt_of_le whole_pos (whole_le_boosted _)
  case isFalse h =>
    refine boosted_lt (ofRatio_mono (by omega) (by decide) ?_) hw hw'
    omega

end Score

section Recognition

variable {σ : Type} {clause : List Char} {p : Proposition σ String}
  {ps : List (Proposition σ String)}

-- The first of the propositions that score as much as one that none outdoes.
theorem bestMatch_eq_find? (hp : p ∈ ps) (ht : threshold ≤ agreement clause p)
    (h : ∀ q ∈ ps, agreement clause q ≤ agreement clause p) :
    bestMatch ps clause = ps.find? (fun q => agreement clause p ≤ agreement clause q) := by
  cases hf : ps.find? (fun q => agreement clause p ≤ agreement clause q)
  case none =>
    have hn : ¬agreement clause p ≤ agreement clause p := by
      simpa using List.find?_eq_none.mp hf p hp
    exact absurd (le_refl _) hn
  case some q =>
    obtain ⟨hq, before, after, rfl, hb⟩ := List.find?_eq_some_iff_append.mp hf
    have hq : agreement clause p ≤ agreement clause q := of_decide_eq_true hq
    refine bestMatch_eq_some_iff.mpr ⟨before, after, rfl, ⟨fun o ho => ?_, fun o ho => ?_⟩, ?_⟩
    · have ho : ¬agreement clause p ≤ agreement clause o := by simpa using hb o ho
      exact lt_of_lt_of_le (not_le.mp ho) hq
    · exact le_trans (h o (by simp [ho])) hq
    · exact le_trans ht hq

-- No proposition scores more than one whose own meaning the clause repeats, and of those that score
-- as much the first is taken. Up to two to the 50th words, where a part can not be rounded to the
-- whole, these are the propositions that say nothing but words of the clause.
theorem bestMatch_own_meaning (hp : p ∈ ps) (hw : ∀ q ∈ ps, foldedWords q.meaning.toList ≠ []) :
    let own := p.meaning.toList
    (∀ q ∈ ps, agreement own q ≤ agreement own p) ∧
    bestMatch ps own = ps.find? (fun q => agreement own p ≤ agreement own q) ∧
    ((∀ q ∈ ps, (foldedWords q.meaning.toList).length ≤ 2 ^ 50) →
      bestMatch ps own = ps.find? (fun q => coveredBy (foldedWords own) q.meaning.toList) ∧
      ∀ before after, ps = before ++ p :: after →
        (∀ q ∈ before, coveredBy (foldedWords own) q.meaning.toList = false) →
        bestMatch ps own = some p) := by
  intro own
  have hcovered : coveredBy (foldedWords own) own := by simp [coveredBy]
  have hown : agreement own p = boosted whole (foldedWords own).length :=
    score_of_coveredBy (hw p hp) hcovered
  have hle : ∀ q ∈ ps, agreement own q ≤ agreement own p := by
    intro q _
    rw [hown]
    exact score_le (foldedWords own) q.meaning.toList
  have ht : threshold ≤ agreement own p := by
    rw [hown]
    exact le_trans threshold_le_whole (whole_le_boosted _)
  have hfirst := bestMatch_eq_find? hp ht hle
  refine ⟨hle, hfirst, fun hl => ?_⟩
  have hsame : ∀ q ∈ ps, decide (agreement own p ≤ agreement own q) =
      coveredBy (foldedWords own) q.meaning.toList := by
    intro q hq
    cases hc : coveredBy (foldedWords own) q.meaning.toList
    case true =>
      refine decide_eq_true ?_
      rw [hown, agreement, score_of_coveredBy (hw q hq) hc]
      exact le_refl _
    case false =>
      refine decide_eq_false (not_le.mpr ?_)
      rw [hown]
      exact score_lt hc (hl q hq) (List.length_pos_iff.mpr (hw p hp)) (hl p hp)
  have hfind : bestMatch ps own =
      ps.find? (fun q => coveredBy (foldedWords own) q.meaning.toList) :=
    hfirst.trans (List.find?_congr hsame)
  refine ⟨hfind, fun before after he hb => ?_⟩
  rw [hfind, List.find?_eq_some_iff_append]
  exact ⟨hcovered, before, after, he, fun q hq => by simp [hb q hq]⟩

theorem bestMatch_own_meaning_of_rain :
    let p : Named := ⟨"p", "Llueve y nieva"⟩
    let q : Named := ⟨"q", "nieva mucho"⟩
    let r : Named := ⟨"r", "Nevará mucho, nieva."⟩
    let own := r.meaning.toList
    let covered (o : Named) := coveredBy (foldedWords own) o.meaning.toList
    (∀ o ∈ [p, q, r], foldedWords o.meaning.toList ≠ []) ∧
    (∀ o ∈ [p, q, r], (foldedWords o.meaning.toList).length ≤ 2 ^ 50) ∧
    (∀ o ∈ [p, r, q], agreement own o ≤ agreement own r) ∧
    bestMatch [p, q, r] own = [p, q, r].find? (fun o => agreement own r ≤ agreement own o) ∧
    bestMatch [p, q, r] own = [p, q, r].find? covered ∧ [p, q, r].find? covered = some q ∧
    (∀ o ∈ [p], covered o = false) ∧ bestMatch [p, r, q] own = some r := by
  intro p q r own covered
  have ⟨hp, hq, hr⟩ :
      foldedWords p.meaning.toList = ["llueve", "y", "nieva"].map String.toList ∧
      foldedWords q.meaning.toList = ["nieva", "mucho"].map String.toList ∧
      foldedWords r.meaning.toList = ["neva", "mucho", "nieva"].map String.toList := by
    decide +kernel
  have hc : [p, q, r].map covered = [false, true, true] := by
    simp [covered, coveredBy, own, hp, hq, hr]
  have hb : ∀ o ∈ [p], covered o = false := by simp_all
  have hw {o : Named} (ho : o ∈ [p, q, r]) : foldedWords o.meaning.toList ≠ [] ∧
      (foldedWords o.meaning.toList).length ≤ 2 ^ 50 := by
    obtain rfl | rfl | rfl : o = p ∨ o = q ∨ o = r := by simpa using ho
    · simp [hp]
    · simp [hq]
    · simp [hr]
  have hm {o : Named} (ho : o ∈ [p, r, q]) : o ∈ [p, q, r] := by simp_all [or_comm]
  have ⟨_, hfirst, h⟩ := bestMatch_own_meaning (show r ∈ [p, q, r] by simp)
    fun o ho => (hw ho).1
  have ⟨hle, _, h'⟩ := bestMatch_own_meaning (show r ∈ [p, r, q] by simp)
    fun o ho => (hw (hm ho)).1
  exact ⟨fun o ho => (hw ho).1, fun o ho => (hw ho).2, hle, hfirst, (h fun o ho => (hw ho).2).1,
    by simp_all, hb, (h' fun o ho => (hw (hm ho)).2).2 [p] [q] rfl hb⟩

-- The words of one meaning may all be among those of another that is declared after it.
theorem not_matched_under_shorter_meaning :
    let p : Named := ⟨"p", "llueve"⟩
    let q : Named := ⟨"q", "llueve mucho"⟩
    [p, q].map (fun o => foldedWords o.meaning.toList) =
      [["llueve".toList], ["llueve".toList, "mucho".toList]] ∧
    bestMatch [p, q] q.meaning.toList = some p := by
  decide +kernel

end Recognition

end Enunciado.Prose

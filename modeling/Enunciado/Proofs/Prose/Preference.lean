import Mathlib.Data.List.Perm.Basic
import Enunciado.Proofs.Binary64.Order
import Enunciado.Prose.Match

namespace Enunciado.Prose

section FirstBest

-- `Leads f before x after` says that `x` is the first item with the greatest score among those
-- before it, itself, and those after it.
structure Leads {α : Type} (f : α → Magnitude) (before : List α) (x : α) (after : List α) : Prop where
  before_lt : ∀ y ∈ before, f y < f x
  after_le  : ∀ y ∈ after, f y ≤ f x

variable {α : Type} {f : α → Magnitude} {x y : α} {xs ys before after before' after' : List α}
  {best : Option α × Magnitude} {m : Magnitude}

namespace Leads

theorem le (h : Leads f before x after) (hy : y ∈ before ++ x :: after) : f y ≤ f x := by
  obtain hy | hy := List.mem_append.mp hy
  · exact Magnitude.le_of_lt (h.before_lt y hy)
  · obtain rfl | hy := List.mem_cons.mp hy
    · exact Magnitude.le_refl _
    · exact h.after_le y hy

theorem mono (h : Leads f before x after) (hb : before'.Sublist before)
    (ha : after'.Sublist after) : Leads f before' x after' :=
  ⟨fun y hy => h.before_lt y (hb.subset hy), fun y hy => h.after_le y (ha.subset hy)⟩

theorem cons (h : Leads f before x after) (hy : f y < f x) : Leads f (y :: before) x after :=
  ⟨List.forall_mem_cons.mpr ⟨hy, h.before_lt⟩, h.after_le⟩

end Leads

theorem firstBest_append (best : Option α × Magnitude) (xs ys : List α) :
    firstBest f best (xs ++ ys) = firstBest f (firstBest f best xs) ys := by
  induction xs generalizing best
  case nil => rfl
  case cons x xs hi => exact hi _

theorem firstBest_map {β : Type} (g : α → β) {score : α → Magnitude} {score' : β → Magnitude}
    (h : ∀ a, score' (g a) = score a) (best : Option α × Magnitude) (xs : List α) :
    firstBest score' (best.1.map g, best.2) (xs.map g) =
      ((firstBest score best xs).1.map g, (firstBest score best xs).2) := by
  induction xs generalizing best
  case nil => rfl
  case cons x xs hi =>
    simp only [List.map_cons, firstBest, ← hi, h]
    split <;> rfl

theorem firstBest_of_le (h : ∀ x ∈ xs, f x ≤ best.2) : firstBest f best xs = best := by
  induction xs
  case nil => rfl
  case cons x xs hi =>
    have ⟨hx, hxs⟩ := List.forall_mem_cons.mp h
    rw [firstBest, if_neg (Magnitude.not_lt.mpr hx), hi hxs]

theorem firstBest_lt (hb : best.2 < m) (h : ∀ x ∈ xs, f x < m) : (firstBest f best xs).2 < m := by
  induction xs generalizing best
  case nil => exact hb
  case cons x xs hi =>
    have ⟨hx, hxs⟩ := List.forall_mem_cons.mp h
    refine hi ?_ hxs
    split
    case isTrue => exact hx
    case isFalse => exact hb

theorem Leads.firstBest_eq (h : Leads f before x after) (hb : best.2 < f x) :
    firstBest f best (before ++ x :: after) = (some x, f x) := by
  rw [firstBest_append, firstBest, if_pos (firstBest_lt hb h.before_lt)]
  exact firstBest_of_le h.after_le

-- Either the items change nothing, or one of them leads the others and what was best before.
theorem firstBest_cases (f : α → Magnitude) (best : Option α × Magnitude) (xs : List α) :
    (∀ x ∈ xs, f x ≤ best.2) ∨
      ∃ before x after, xs = before ++ x :: after ∧ best.2 < f x ∧ Leads f before x after := by
  induction xs generalizing best
  case nil => exact .inl nofun
  case cons y xs hi =>
    by_cases hy : best.2 < f y
    case pos =>
      obtain hle | ⟨before, x, after, rfl, hx, hl⟩ := hi (some y, f y)
      · exact .inr ⟨[], y, xs, rfl, hy, nofun, hle⟩
      · exact .inr ⟨y :: before, x, after, rfl, Magnitude.lt_trans hy hx, hl.cons hx⟩
    case neg =>
      have hy := Magnitude.not_lt.mp hy
      obtain hle | ⟨before, x, after, rfl, hx, hl⟩ := hi best
      · exact .inl (List.forall_mem_cons.mpr ⟨hy, hle⟩)
      · exact .inr ⟨y :: before, x, after, rfl, hx, hl.cons (Magnitude.lt_of_le_of_lt hy hx)⟩

theorem le_firstBest (f : α → Magnitude) (best : Option α × Magnitude) (xs : List α) :
    best.2 ≤ (firstBest f best xs).2 ∧ ∀ x ∈ xs, f x ≤ (firstBest f best xs).2 := by
  obtain hle | ⟨before, x, after, rfl, hx, hl⟩ := firstBest_cases f best xs
  · rw [firstBest_of_le hle]
    exact ⟨Magnitude.le_refl _, hle⟩
  · rw [hl.firstBest_eq hx]
    exact ⟨Magnitude.le_of_lt hx, fun y hy => hl.le hy⟩

end FirstBest

section BestMatch

variable {σ : Type} {clause clause' : List Char} {p : Proposition σ String}
  {ps qs before after : List (Proposition σ String)}

-- The score of a proposition for a clause.
def agreement (clause : List Char) (p : Proposition σ String) : Magnitude :=
  score (foldedWords clause) p.meaning.toList

theorem threshold_pos : (⟨0⟩ : Magnitude) < threshold := by
  decide +kernel

theorem bestMatch_eq (ps : List (Proposition σ String)) (clause : List Char) :
    bestMatch ps clause =
      if threshold ≤ (firstBest (agreement clause) (none, ⟨0⟩) ps).2 then
        (firstBest (agreement clause) (none, ⟨0⟩) ps).1
      else none :=
  rfl

theorem bestMatch_of_no_propositions (clause : List Char) :
    bestMatch ([] : List (Proposition σ String)) clause = none := by
  rw [bestMatch_eq, firstBest, if_neg (Magnitude.not_le.mpr threshold_pos)]

theorem Leads.bestMatch_eq (h : Leads (agreement clause) before p after) :
    bestMatch (before ++ p :: after) clause =
      if threshold ≤ agreement clause p then some p else none := by
  by_cases hp : ⟨0⟩ < agreement clause p
  case pos => rw [Prose.bestMatch_eq, h.firstBest_eq hp]
  case neg =>
    have hz : agreement clause p ≤ ⟨0⟩ := Magnitude.not_lt.mp hp
    have ht : ¬threshold ≤ agreement clause p := fun ht =>
      hp (Magnitude.lt_of_lt_of_le threshold_pos ht)
    rw [Prose.bestMatch_eq, firstBest_of_le fun q hq => Magnitude.le_trans (h.le hq) hz, if_neg ht,
      if_neg (Magnitude.not_le.mpr threshold_pos)]

theorem bestMatch_cases (ps : List (Proposition σ String)) (clause : List Char) :
    ps = [] ∨ ∃ before p after, ps = before ++ p :: after ∧
      Leads (agreement clause) before p after := by
  cases ps
  case nil => exact .inl rfl
  case cons p ps =>
    obtain hle | ⟨before, q, after, rfl, hq, hl⟩ :=
      firstBest_cases (agreement clause) (some p, agreement clause p) ps
    · exact .inr ⟨[], p, ps, rfl, nofun, hle⟩
    · exact .inr ⟨p :: before, q, after, rfl, hl.cons hq⟩

theorem bestMatch_eq_none_iff :
    bestMatch ps clause = none ↔ ∀ p ∈ ps, agreement clause p < threshold := by
  obtain rfl | ⟨before, p, after, rfl, hl⟩ := bestMatch_cases ps clause
  case inl => exact ⟨fun _ => nofun, fun _ => bestMatch_of_no_propositions clause⟩
  case inr =>
    by_cases ht : threshold ≤ agreement clause p
    case pos =>
      rw [hl.bestMatch_eq, if_pos ht]
      exact ⟨nofun, fun h => absurd ht (Magnitude.not_le.mpr (h p (by simp)))⟩
    case neg =>
      rw [hl.bestMatch_eq, if_neg ht]
      have hp := Magnitude.not_le.mp ht
      exact ⟨fun _ q hq => Magnitude.lt_of_le_of_lt (hl.le hq) hp, fun _ => rfl⟩

theorem bestMatch_eq_some_iff :
    bestMatch ps clause = some p ↔
      ∃ before after, ps = before ++ p :: after ∧ Leads (agreement clause) before p after ∧
        threshold ≤ agreement clause p := by
  constructor
  case mp =>
    intro h
    obtain rfl | ⟨before, q, after, rfl, hl⟩ := bestMatch_cases ps clause
    case inl => simp [bestMatch_of_no_propositions] at h
    case inr =>
      by_cases ht : threshold ≤ agreement clause q
      case pos =>
        rw [hl.bestMatch_eq, if_pos ht] at h
        cases h
        exact ⟨before, after, rfl, hl, ht⟩
      case neg =>
        rw [hl.bestMatch_eq, if_neg ht] at h
        cases h
  case mpr =>
    rintro ⟨before, after, rfl, hl, ht⟩
    rw [hl.bestMatch_eq, if_pos ht]

theorem bestMatch_append (h : ∀ q ∈ qs, agreement clause q ≤ ⟨0⟩ ∨
    ∃ p ∈ ps, agreement clause q ≤ agreement clause p) :
    bestMatch (ps ++ qs) clause = bestMatch ps clause := by
  have ⟨hb, hp⟩ := le_firstBest (agreement clause) (none, ⟨0⟩) ps
  have hq : ∀ q ∈ qs, agreement clause q ≤ (firstBest (agreement clause) (none, ⟨0⟩) ps).2 := by
    intro q hq
    obtain hz | ⟨p, hm, hle⟩ := h q hq
    · exact Magnitude.le_trans hz hb
    · exact Magnitude.le_trans hle (hp p hm)
  rw [bestMatch_eq, bestMatch_eq, firstBest_append, firstBest_of_le hq]

-- Only how many words a clause has and which they are counts.
theorem score_perm {ws ws' : List (List Char)} (h : ws.Perm ws') (meaning : List Char) :
    score ws meaning = score ws' meaning := by
  have hc : (ws.contains ·) = (ws'.contains ·) := by
    funext w
    simp [h.mem_iff]
  rw [score, hc, h.length_eq, score]

theorem bestMatch_perm (h : (foldedWords clause).Perm (foldedWords clause')) :
    bestMatch ps clause = bestMatch ps clause' := by
  have ha : @agreement σ clause = agreement clause' := funext fun p => score_perm h _
  rw [bestMatch_eq, bestMatch_eq, ha]

-- A clause speaks of the first proposition with the greatest score, or of none if all are below the
-- threshold. It still does so without some of the others and with more that are no better, and of
-- the clause only its words count, in any order.
theorem bestMatch_is_first_maximum (ps : List (Proposition σ String)) (clause : List Char) :
    (bestMatch ps clause = none ↔ ∀ p ∈ ps, agreement clause p < threshold) ∧
    (∀ p, bestMatch ps clause = some p ↔
      ∃ before after, ps = before ++ p :: after ∧ threshold ≤ agreement clause p ∧
        (∀ q ∈ before, agreement clause q < agreement clause p) ∧
        ∀ q ∈ after, agreement clause q ≤ agreement clause p) ∧
    (∀ before p after before' after', ps = before ++ p :: after →
      (∀ q ∈ before, agreement clause q < agreement clause p) →
      (∀ q ∈ after, agreement clause q ≤ agreement clause p) →
      before'.Sublist before → after'.Sublist after →
      bestMatch (before' ++ p :: after') clause = bestMatch ps clause) ∧
    (∀ ps', ps'.Sublist ps → bestMatch ps clause = none → bestMatch ps' clause = none) ∧
    (∀ qs, (∀ q ∈ qs, agreement clause q ≤ ⟨0⟩ ∨
        ∃ p ∈ ps, agreement clause q ≤ agreement clause p) →
      bestMatch (ps ++ qs) clause = bestMatch ps clause) ∧
    ∀ clause', (foldedWords clause').Perm (foldedWords clause) →
      bestMatch ps clause' = bestMatch ps clause := by
  refine ⟨bestMatch_eq_none_iff, fun p => ?some, ?removed, ?none, fun qs => bestMatch_append,
    fun clause' => bestMatch_perm⟩
  case some =>
    rw [bestMatch_eq_some_iff]
    constructor
    · rintro ⟨before, after, he, hl, ht⟩
      exact ⟨before, after, he, ht, hl.before_lt, hl.after_le⟩
    · rintro ⟨before, after, he, ht, hb, ha⟩
      exact ⟨before, after, he, ⟨hb, ha⟩, ht⟩
  case removed =>
    rintro before p after before' after' rfl hb ha hb' ha'
    have hl : Leads (agreement clause) before p after := ⟨hb, ha⟩
    rw [(hl.mono hb' ha').bestMatch_eq, hl.bestMatch_eq]
  case none =>
    intro ps' hs h
    rw [bestMatch_eq_none_iff] at h ⊢
    exact fun p hp => h p (hs.subset hp)

theorem bestMatch_is_first_maximum_for_rain :
    let p : Named := ⟨"p", "llueve mucho"⟩
    let q : Named := ⟨"q", "llueve"⟩
    let r : Named := ⟨"r", "nieva"⟩
    let clause := "hoy llueve".toList
    (∀ o ∈ [r, r], agreement clause o < threshold) ∧
    bestMatch [r, r] clause = none ∧
    bestMatch [r] clause = bestMatch [r, r] clause ∧
    bestMatch [p, q, q, r] clause = some q ∧
    bestMatch [q, r] clause = bestMatch [p, q, q, r] clause ∧
    bestMatch [p, q, q, r, r] clause = bestMatch [p, q, q, r] clause ∧
    bestMatch [p, q, q, r] "llueve hoy".toList = bestMatch [p, q, q, r] clause := by
  intro p q r clause
  have ⟨hnone, _, _, hfewer, _⟩ := bestMatch_is_first_maximum [r, r] clause
  have ⟨_, hsome, hremoved, _, happended, hreordered⟩ :=
    bestMatch_is_first_maximum [p, q, q, r] clause
  have ⟨hr, hb, ha, ht, hz⟩ :
      (∀ o ∈ [r, r], agreement clause o < threshold) ∧
      (∀ o ∈ [p], agreement clause o < agreement clause q) ∧
      (∀ o ∈ [q, r], agreement clause o ≤ agreement clause q) ∧
      threshold ≤ agreement clause q ∧ ∀ o ∈ [r], agreement clause o ≤ ⟨0⟩ := by
    decide +kernel
  have hn := hnone.mpr hr
  refine ⟨hr, hn, ?_, (hsome q).mpr ⟨[p], [q, r], rfl, ht, hb, ha⟩, ?_, ?_, ?_⟩
  · exact (hfewer [r] (by simp) hn).trans hn.symm
  · exact hremoved [p] q [q, r] [] [r] rfl hb ha (by simp) (by simp)
  · exact happended [r] fun o ho => .inl (hz o ho)
  · exact hreordered _ (by decide +kernel)

end BestMatch

end Enunciado.Prose

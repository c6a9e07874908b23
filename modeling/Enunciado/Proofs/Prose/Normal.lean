import Enunciado.Proofs.Prose.Accents
import Enunciado.Proofs.Prose.Preference
import Enunciado.Proofs.Prose.Spacing
import Enunciado.Proofs.Text.LowerForm
import Enunciado.Proofs.Text.Word

namespace Enunciado.Prose

open Text

variable {b c vowel short : Char} {s t : List Char} {σ β : Type}

section Futures

theorem startsInWord_append_cons (h : isWordChar b = false) (s t : List Char) :
    startsInWord (s ++ b :: t) = startsInWord s := by
  cases s
  case nil => exact h
  case cons => rfl

-- A character stays where no future begins.
theorem shortenFuture_cons (h : c = vowel → ∀ u, s = 'r' :: 'á' :: u → startsInWord u) :
    shortenFuture vowel short (c :: s) = c :: shortenFuture vowel short s := by
  match s with
  | [] => rfl
  | [_] => rfl
  | _ :: _ :: u =>
    rw [shortenFuture, if_neg]
    rintro ⟨hc, rfl, rfl, hu⟩
    simp [h hc u rfl] at hu

-- No future goes on after a blank, and a blank ends a word as the end of the text does.
theorem shortenFuture_append (hv : isBlank vowel = false) (hb : isBlank b) (s t : List Char) :
    shortenFuture vowel short (s ++ b :: t) =
      shortenFuture vowel short s ++ b :: shortenFuture vowel short t := by
  have hw := startsInWord_append_cons (not_isWordChar_of_isBlank hb)
  have hbt : shortenFuture vowel short (b :: t) = b :: shortenFuture vowel short t := by
    refine shortenFuture_cons fun h => ?_
    simp [h, hv] at hb
  fun_induction shortenFuture vowel short s
  case case1 s h hi =>
    obtain ⟨rfl, rfl, rfl, hs⟩ := h
    have hs : startsInWord (s ++ b :: t) = false := (hw s t).trans hs
    rw [List.cons_append, List.cons_append, List.cons_append, shortenFuture,
      if_pos ⟨rfl, rfl, rfl, hs⟩, hi, List.cons_append]
  case case2 c d e s h hi =>
    rw [List.cons_append, shortenFuture_cons, hi, List.cons_append]
    rintro rfl u hu
    obtain ⟨rfl, rfl, rfl⟩ : d = 'r' ∧ e = 'á' ∧ s ++ b :: t = u := by simpa using hu
    rw [hw]
    simpa using h
  case case3 s h =>
    have hr : isBlank 'r' = false := by decide
    have ha : isBlank 'á' = false := by decide
    match s with
    | [] => exact hbt
    | [c] =>
      rw [List.singleton_append, shortenFuture_cons, hbt, List.singleton_append]
      rintro - u ⟨⟩
      simp [hr] at hb
    | [c, d] =>
      rw [List.cons_append, List.singleton_append, shortenFuture_cons, shortenFuture_cons, hbt]
      · rfl
      · rintro - u ⟨⟩
        simp [hr] at hb
      · rintro - u ⟨⟩
        simp [ha] at hb
    | c :: d :: e :: s => exact absurd rfl (h c d e s)

theorem collapseFuture_append (hb : isBlank b) (s t : List Char) :
    collapseFuture (s ++ b :: t) = collapseFuture s ++ b :: collapseFuture t := by
  have hi : isBlank 'i' = false := by decide
  have ha : isBlank 'a' = false := by decide
  simp only [collapseFuture, shortenFuture_append, hi, ha, hb]

end Futures

section Blanks

-- What is gathered from a text piece by piece, from one blank to the next.
structure Piecewise (f : List Char → List β) : Prop where
  nil    : f [] = []
  append : ∀ {c}, isBlank c → ∀ s t, f (s ++ c :: t) = f s ++ f t

namespace Piecewise

variable {f : List Char → List β}

theorem cons (h : Piecewise f) (hc : isBlank c) (s : List Char) : f (c :: s) = f s := by
  simpa [h.nil] using h.append hc [] s

-- After a blank nothing depends on what came before, and before the next blank nothing is changed.
theorem squeezeGo (h : Piecewise f) (s : List Char) :
    f (squeeze.go isBlank true s) = f s ∧
      ∀ before, f (before ++ squeeze.go isBlank false s) = f (before ++ s) := by
  induction s
  case nil => exact ⟨rfl, fun _ => rfl⟩
  case cons c s hi =>
    simp only [squeeze.go]
    cases hc : isBlank c
    case true =>
      refine ⟨hi.1.trans (h.cons hc s).symm, fun before => ?_⟩
      exact (h.append rfl before _).trans (hi.1 ▸ (h.append hc before s).symm)
    case false =>
      refine ⟨hi.2 [c], fun before => ?_⟩
      simpa using hi.2 (before ++ [c])

theorem squeeze (h : Piecewise f) (s : List Char) : f (squeeze isBlank s) = f s :=
  (h.squeezeGo s).2 []

theorem append_blanks (h : Piecewise f) (ht : ∀ c ∈ t, isBlank c) (s : List Char) :
    f (s ++ t) = f s := by
  induction t generalizing s
  case nil => rw [List.append_nil]
  case cons c t hi =>
    have ⟨hc, ht⟩ := List.forall_mem_cons.mp ht
    rw [h.append hc, ← List.nil_append t, hi ht, h.nil, List.append_nil]

theorem blanks_append (h : Piecewise f) (hs : ∀ c ∈ s, isBlank c) (t : List Char) :
    f (s ++ t) = f t := by
  induction s
  case nil => rfl
  case cons c s hi =>
    have ⟨hc, hs⟩ := List.forall_mem_cons.mp hs
    rw [List.cons_append, h.cons hc, hi hs]

theorem trim (h : Piecewise f) (s : List Char) : f (trim s) = f s := by
  have ⟨before, after, hs, hb, ha⟩ := exists_blanks s
  conv_rhs => rw [hs, h.append_blanks ha, h.blanks_append hb]

end Piecewise

theorem piecewise_words : Piecewise fun s => words (stripMarks (collapseFuture s)) where
  nil := rfl
  append hc s t := by rw [collapseFuture_append hc, words_stripMarks_append hc]

end Blanks

section Normal

theorem SingleSpaced.squeezeGo (h : SingleSpaced s) (inRun : Bool)
    (hs : inRun → ∀ c ∈ s.head?, isBlank c = false) : squeeze.go isBlank inRun s = s := by
  induction s generalizing inRun
  case nil => rfl
  case cons c s hi =>
    have ht : SingleSpaced s := h.mono (List.suffix_cons c s).isInfix
    rw [squeeze.go]
    split_ifs with hc hr
    case pos => exact absurd hc (by simp [hs hr c rfl])
    case neg =>
      obtain rfl := h.spaces c (by simp) hc
      rw [hi ht true fun _ => h.head]
    case neg => rw [hi ht false (by simp)]

theorem eq_space_or_mem_of_mem_squeezeGo {inRun : Bool} (h : c ∈ squeeze.go isBlank inRun s) :
    c = ' ' ∨ c ∈ s := by
  induction s generalizing inRun
  case nil => contradiction
  case cons d s hi =>
    rw [squeeze.go] at h
    split_ifs at h
    case pos => exact (hi h).imp_right (List.mem_cons_of_mem d)
    case neg =>
      obtain rfl | h := List.mem_cons.mp h
      · exact .inl rfl
      · exact (hi h).imp_right (List.mem_cons_of_mem d)
    case neg =>
      obtain rfl | h := List.mem_cons.mp h
      · exact .inr List.mem_cons_self
      · exact (hi h).imp_right (List.mem_cons_of_mem d)

theorem isLow_of_mem_normalize (h : c ∈ normalize s) : IsLow c := by
  obtain rfl | h := eq_space_or_mem_of_mem_squeezeGo (mem_of_mem_trim h)
  · decide +kernel
  · exact isLow_of_mem_lowercase h

theorem lowercase_normalize (s : List Char) : lowercase (normalize s) = normalize s :=
  lowercase_eq_self fun _ => isLow_of_mem_normalize

theorem normalize_normalize (s : List Char) : normalize (normalize s) = normalize s := by
  have hs : squeeze isBlank (normalize s) = normalize s :=
    (singleSpaced_normalize s).squeezeGo false (by simp)
  conv_lhs => rw [normalize, lowercase_normalize, hs]
  exact trim_trim _

theorem foldedWords_normalize (s : List Char) : foldedWords (normalize s) = foldedWords s := by
  rw [foldedWords, fold, lowercase_normalize]
  exact (piecewise_words.trim _).trans (piecewise_words.squeeze _)

end Normal

section Matches

-- The proposition with its meaning in normal form.
def normalized (p : Proposition σ String) : Proposition σ String :=
  { p with meaning := String.ofList (normalize p.meaning.toList) }

theorem score_normalized (ws : List (List Char)) (p : Proposition σ String) :
    score ws (normalized p).meaning.toList = score ws p.meaning.toList := by
  simp only [score, normalized, String.toList_ofList, foldedWords_normalize]

theorem bestMatch_map_normalized (ps : List (Proposition σ String)) (clause : List Char) :
    bestMatch (ps.map normalized) clause = (bestMatch ps clause).map normalized := by
  have ha (p : Proposition σ String) : agreement clause (normalized p) = agreement clause p :=
    score_normalized _ p
  have h := firstBest_map normalized ha (none, ⟨0⟩) ps
  rw [Option.map_none] at h
  rw [bestMatch_eq, bestMatch_eq, h]
  by_cases ht : threshold ≤ (firstBest (agreement clause) (none, ⟨0⟩) ps).2
  case pos => rw [if_pos ht, if_pos ht]
  case neg => rw [if_neg ht, if_neg ht, Option.map_none]

theorem bestMatch_normalize (ps : List (Proposition σ String)) (clause : List Char) :
    bestMatch ps (normalize clause) = bestMatch ps clause := by
  rw [bestMatch, foldedWords_normalize, ← bestMatch]

theorem normal_forms_agree (ps : List (Proposition σ String)) (s : List Char) :
    foldedWords (normalize s) = foldedWords s ∧
    normalize (normalize s) = normalize s ∧
    lowercase (lowercase s) = lowercase s ∧
    bestMatch ps (normalize s) = bestMatch ps s ∧
    (∀ ws p, score ws (normalized p : Proposition σ String).meaning.toList =
      score ws p.meaning.toList) ∧
    bestMatch (ps.map normalized) s = (bestMatch ps s).map normalized :=
  ⟨foldedWords_normalize s, normalize_normalize s,
    lowercase_eq_self fun _ => isLow_of_mem_lowercase, bestMatch_normalize ps s, score_normalized,
    bestMatch_map_normalized ps s⟩

-- A final sigma, a wide blank and a future.
example : foldedWords (normalize " ΟΔΟΣ\u2001 Mojará. ".toList) =
    ["οδος".toList, "moja".toList] := by
  decide +kernel

end Matches

end Enunciado.Prose

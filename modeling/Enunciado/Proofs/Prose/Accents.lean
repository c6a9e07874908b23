import Enunciado.Proofs.Text.Mark
import Enunciado.Prose.Match

namespace Enunciado.Prose

open Text

-- A text in which a word ends in `vowel` + "rá".
inductive HasEnding (vowel : Char) : List Char → Prop
  | here {s} : startsInWord s = false → HasEnding vowel (vowel :: 'r' :: 'á' :: s)
  | there {c s} : HasEnding vowel s → HasEnding vowel (c :: s)

-- A text in which a word ends like a verb in the future tense.
def HasFuture (s : List Char) : Prop :=
  HasEnding 'i' s ∨ HasEnding 'a' s

variable {vowel short : Char} {s : List Char} {σ : Type}

section Endings

theorem HasEnding.mem (h : HasEnding vowel s) : 'á' ∈ s := by
  induction h
  case here => simp
  case there hi => simp [hi]

theorem HasEnding.three (h : HasEnding vowel s) : ∃ a b c t, s = a :: b :: c :: t := by
  induction h
  case here s _ => exact ⟨vowel, 'r', 'á', s, rfl⟩
  case there d _ _ hi =>
    obtain ⟨a, b, c, t, rfl⟩ := hi
    exact ⟨d, a, b, c :: t, rfl⟩

theorem shortenFuture_eq_self (h : ¬HasEnding vowel s) : shortenFuture vowel short s = s := by
  fun_induction shortenFuture vowel short s
  case case1 he _ =>
    obtain ⟨rfl, rfl, rfl, he⟩ := he
    exact absurd (.here he) h
  case case2 hi => rw [hi fun he => h (.there he)]
  case case3 => rfl

theorem length_stripMarks_shortenFuture_le (h : (starters short).length ≤ (starters vowel).length)
    (s : List Char) :
    (stripMarks (shortenFuture vowel short s)).length ≤ (stripMarks s).length := by
  simp only [stripMarks_eq]
  fun_induction shortenFuture vowel short s
  case case1 he hi =>
    obtain ⟨rfl, -, -, -⟩ := he
    simp only [List.flatMap_cons, List.length_append]
    omega
  case case2 hi =>
    rw [List.flatMap_cons, List.flatMap_cons, List.length_append, List.length_append]
    omega
  case case3 => rfl

theorem length_stripMarks_shortenFuture_lt (h : (starters short).length ≤ (starters vowel).length)
    (he : HasEnding vowel s) :
    (stripMarks (shortenFuture vowel short s)).length < (stripMarks s).length := by
  fun_induction shortenFuture vowel short s
  case case1 s hs _ =>
    obtain ⟨rfl, rfl, rfl, -⟩ := hs
    have hr : (starters 'r').length = 1 := by decide +kernel
    have hl := length_stripMarks_shortenFuture_le h s
    simp only [stripMarks_eq, List.flatMap_cons, List.length_append] at *
    omega
  case case2 hs hi =>
    cases he
    case here he => exact absurd ⟨rfl, rfl, rfl, he⟩ hs
    case there he =>
      have hi := hi he
      simp only [stripMarks_eq, List.flatMap_cons, List.length_append] at *
      omega
  case case3 hs =>
    obtain ⟨a, b, c, s, rfl⟩ := he.three
    exact absurd rfl (hs a b c s)

theorem collapseFuture_eq_self (h : ¬HasFuture s) : collapseFuture s = s := by
  have ⟨hi, ha⟩ := not_or.mp h
  rw [collapseFuture, shortenFuture_eq_self hi, shortenFuture_eq_self ha]

-- A future loses letters.
theorem length_stripMarks_collapseFuture (h : HasFuture s) :
    (stripMarks (collapseFuture s)).length < (stripMarks s).length := by
  have hi : (starters 'e').length ≤ (starters 'i').length := by decide +kernel
  have ha : (starters 'a').length ≤ (starters 'a').length := le_rfl
  unfold collapseFuture
  by_cases he : HasEnding 'i' s
  case pos =>
    exact (length_stripMarks_shortenFuture_le ha _).trans_lt
      (length_stripMarks_shortenFuture_lt hi he)
  case neg =>
    rw [shortenFuture_eq_self he]
    exact length_stripMarks_shortenFuture_lt ha (h.resolve_left he)

end Endings

section Decomposed

-- No accented letter is left in a decomposed text, be it put in lower case.
theorem accented_not_mem (s : List Char) : 'á' ∉ lowercase (decompose s) := by
  intro h
  have hd {d : Char} (hd : decomposeChar d ≠ [d]) : d ∉ decompose s := by
    intro hm
    obtain ⟨c, -, hm⟩ := List.mem_flatMap.mp ((decompose_perm s).mem_iff.mp hm)
    exact hd ((decomposes c).decomposeChar_of_mem hm)
  have ⟨c, hm, hc⟩ := (lowered (decompose s)).exists_lowers (List.mem_reverse.mpr h) (by decide)
  have hm := List.mem_reverse.mp hm
  obtain rfl | rfl : c = 'á' ∨ c = 'Á' := eq_of_lowers (by decide +kernel) (by decide) hc
  · exact hd (by decide +kernel) hm
  · exact hd (by decide +kernel) hm

theorem fold_decompose (ps : List (Proposition σ String)) (s : List Char) :
    fold (decompose s) = stripMarks (lowercase s) ∧
    (fold (decompose s) = fold s ↔ ¬HasFuture (lowercase s)) ∧
    (¬HasFuture (lowercase s) → bestMatch ps (decompose s) = bestMatch ps s) := by
  have hd : fold (decompose s) = stripMarks (lowercase s) := by
    have hf : ¬HasFuture (lowercase (decompose s)) :=
      fun h => accented_not_mem s (h.elim HasEnding.mem HasEnding.mem)
    rw [fold, collapseFuture_eq_self hf, stripMarks_lowercase_decompose]
  have hs : fold (decompose s) = fold s ↔ ¬HasFuture (lowercase s) := by
    rw [hd, fold]
    constructor
    case mp =>
      intro he hf
      exact absurd (congrArg List.length he) (length_stripMarks_collapseFuture hf).ne'
    case mpr =>
      intro hf
      rw [collapseFuture_eq_self hf]
  refine ⟨hd, hs, fun hf => ?_⟩
  rw [bestMatch, foldedWords, hs.mpr hf, ← foldedWords, ← bestMatch]

theorem fold_decompose_of_accents :
    let q : Named := ⟨"q", "está aquí"⟩
    let s := "También ESTÁ aquí".toList
    decompose s ≠ s ∧ ¬HasFuture (lowercase s) ∧ fold (decompose s) = "tambien esta aqui".toList ∧
    fold (decompose s) = fold s ∧ bestMatch [q] (decompose s) = bestMatch [q] s ∧
    bestMatch [q] s = some q := by
  intro q s
  have ⟨_, hs, hb⟩ := fold_decompose [q] s
  have ⟨hn, hd, he, hq⟩ :
      decompose s ≠ s ∧ fold (decompose s) = "tambien esta aqui".toList ∧
      fold (decompose s) = fold s ∧ bestMatch [q] s = some q := by
    decide +kernel
  have hf := hs.mp he
  exact ⟨hn, hf, hd, he, hb hf, hq⟩

-- A future with a mark for its accent stays one, and may not be matched.
theorem not_matched_decomposed :
    let q : Named := ⟨"q", "moja"⟩
    let s := "mojará".toList
    decompose s = "mojara\u0301".toList ∧ fold s = "moja".toList ∧
    fold (decompose s) = "mojara".toList ∧ bestMatch [q] s = some q ∧
    bestMatch [q] (decompose s) = none := by
  decide +kernel

end Decomposed

end Enunciado.Prose

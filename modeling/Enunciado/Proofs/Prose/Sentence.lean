import Enunciado.Proofs.Text.Blank
import Enunciado.Proofs.Text.Lowercase
import Enunciado.Prose.Normal
import Enunciado.Prose.Sentence

namespace Enunciado.Prose

open Text

variable {c : Char} {before s t : List Char}

section Pieces

theorem endsInNo_cons_cons (o n : Char) (s : List Char) :
    endsInNo (o :: n :: s) = (o = 'o' && n = 'n' && !startsInWord s) := by
  by_cases ho : o = 'o'
  case neg => simp [endsInNo, ho]
  case pos =>
    subst ho
    by_cases hn : n = 'n'
    case neg => simp [endsInNo, hn]
    case pos => simp [endsInNo, hn]

-- Whether a text ends in the word "no" depends on nothing before its last word.
theorem endsInNo_append_cons (h : isWordChar c = false) (s before : List Char) :
    endsInNo (s ++ c :: before) = endsInNo s := by
  have ho : c ≠ 'o' := by rintro rfl; revert h; decide +kernel
  have hn : c ≠ 'n' := by rintro rfl; revert h; decide +kernel
  match s with
  | [] => simp [endsInNo, ho]
  | [d] => simp [endsInNo, hn]
  | [d, e] => simp [endsInNo_cons_cons, startsInWord, h]
  | d :: e :: f :: s => simp [endsInNo_cons_cons, startsInWord]

theorem pieces_append (h : endsInNo (s.reverse ++ before) = false) (t : List Char) :
    pieces before (s ++ '.' :: t) = pieces before s ++ pieces [] t := by
  have hp : isWordChar '.' = false := by decide +kernel
  induction s generalizing before
  case nil =>
    rw [List.reverse_nil, List.nil_append] at h
    simp [pieces, h]
  case cons c s hi =>
    rw [List.reverse_cons, List.append_assoc, List.singleton_append] at h
    rw [List.cons_append, pieces, pieces]
    split
    case isTrue hc =>
      obtain ⟨rfl, -⟩ : c = '.' ∧ _ := by simpa using hc
      rw [endsInNo_append_cons hp] at h
      rw [hi (by rwa [List.append_nil]), List.cons_append]
    case isFalse => exact hi h

theorem sentences_append (h : endsInNo s.reverse = false) (t : List Char) :
    sentences (s ++ '.' :: t) = sentences s ++ sentences t := by
  rw [sentences, pieces_append (by rwa [List.append_nil]), List.map_append, List.filter_append,
    sentences, sentences]

end Pieces

section Trim

theorem pieces_concat_before (h : isBlank c) (before s : List Char) :
    (pieces (before ++ [c]) s).map trim = (pieces before s).map trim := by
  have ht (before : List Char) : trim (before ++ [c]).reverse = trim before.reverse := by
    rw [List.reverse_concat, trim_cons h]
  induction s generalizing before
  case nil => simp only [pieces, List.map_cons, ht]
  case cons d s hi =>
    rw [pieces, pieces, endsInNo_append_cons (not_isWordChar_of_isBlank h)]
    split
    case isTrue => rw [List.map_cons, ht, List.map_cons]
    case isFalse => exact hi (d :: before)

theorem pieces_concat (h : isBlank c) (before s : List Char) :
    (pieces before (s ++ [c])).map trim = (pieces before s).map trim := by
  have hc : c ≠ '.' := by rintro rfl; revert h; decide
  induction s generalizing before
  case nil =>
    simp only [List.nil_append, pieces, hc, decide_false, Bool.false_and, Bool.false_eq_true,
      if_false, List.reverse_cons, List.map_cons, trim_concat h]
  case cons d s hi =>
    rw [List.cons_append, pieces, pieces]
    split <;> simp only [List.map_cons, hi]

theorem sentences_cons (h : isBlank c) (s : List Char) : sentences (c :: s) = sentences s := by
  have hc : c ≠ '.' := by rintro rfl; revert h; decide
  have hp : pieces [] (c :: s) = pieces ([] ++ [c]) s := by simp [pieces, hc]
  rw [sentences, hp, pieces_concat_before h, sentences]

theorem sentences_concat (h : isBlank c) (s : List Char) : sentences (s ++ [c]) = sentences s := by
  rw [sentences, pieces_concat h, sentences]

theorem sentences_blanks_append (h : ∀ c ∈ before, isBlank c) (s : List Char) :
    sentences (before ++ s) = sentences s := by
  induction before
  case nil => rfl
  case cons c before hi =>
    have ⟨hc, hb⟩ := List.forall_mem_cons.mp h
    rw [List.cons_append, sentences_cons hc, hi hb]

theorem sentences_append_blanks (h : ∀ c ∈ t, isBlank c) (s : List Char) :
    sentences (s ++ t) = sentences s := by
  induction t generalizing s
  case nil => rw [List.append_nil]
  case cons c t hi =>
    have ⟨hc, ht⟩ := List.forall_mem_cons.mp h
    rw [List.append_cons, hi ht, sentences_concat hc]

theorem sentences_trim (s : List Char) : sentences (trim s) = sentences s := by
  have ⟨before, after, hs, hb, ha⟩ := exists_blanks s
  conv_rhs => rw [hs, sentences_append_blanks ha, sentences_blanks_append hb]

end Trim

section Normal

theorem endsInNo_squeeze (s : List Char) :
    endsInNo (squeeze isBlank s).reverse = endsInNo s.reverse := by
  have hb {c} (hc : isBlank c) (s : List Char) : endsInNo (c :: s) = endsInNo [] :=
    endsInNo_append_cons (not_isWordChar_of_isBlank hc) [] s
  have hb' {c} (hc : isBlank c) (d : Char) (s : List Char) : endsInNo (d :: c :: s) = endsInNo [d] :=
    endsInNo_append_cons (not_isWordChar_of_isBlank hc) [d] s
  obtain rfl | ⟨s, o, rfl⟩ := s.eq_nil_or_concat'
  case inl => rfl
  case inr =>
  cases ho : isBlank o
  case true =>
    obtain ⟨t, ht⟩ := exists_squeeze_concat_blank ho s
    rw [ht, List.reverse_concat, List.reverse_concat, hb rfl, hb ho]
  case false =>
  rw [squeeze_concat ho, List.reverse_concat, List.reverse_concat]
  obtain rfl | ⟨s, n, rfl⟩ := s.eq_nil_or_concat'
  case inl => rfl
  case inr =>
  cases hn : isBlank n
  case true =>
    obtain ⟨t, ht⟩ := exists_squeeze_concat_blank hn s
    rw [ht, List.reverse_concat, List.reverse_concat, hb' rfl, hb' hn]
  case false =>
    rw [squeeze_concat hn, List.reverse_concat, List.reverse_concat, endsInNo_cons_cons,
      startsInWord_squeeze, ← endsInNo_cons_cons]

-- Whether a text, given backwards, ends in the word "no" in any case.
def endsInAnyNo : List Char → Bool
  | o :: n :: s => (o = 'o' || o = 'O') && (n = 'n' || n = 'N') && !startsInWord s
  | _ => false

-- Whether a text, given backwards, ends in "no" in any case after a dotted capital I.
def endsInDottedNo : List Char → Bool
  | o :: n :: i :: _ => (o = 'o' || o = 'O') && (n = 'n' || n = 'N') && i = 'İ'
  | _ => false

-- In lower case a word may get to end in "no" on its own: the mark that a dotted capital I leaves
-- is no character of a word.
theorem endsInNo_lowercase (h : endsInNo (lowercase s).reverse) :
    endsInAnyNo s.reverse ∨ endsInDottedNo s.reverse := by
  have ho {c} (hc : Lowers c 'o') : c = 'o' ∨ c = 'O' :=
    eq_of_lowers (by decide +kernel) (by decide) hc
  have hn {c} (hc : Lowers c 'n') : c = 'n' ∨ c = 'N' :=
    eq_of_lowers (by decide +kernel) (by decide) hc
  have hl := lowered s
  generalize s.reverse = r, (lowercase s).reverse = t at hl h
  unfold endsInNo at h
  split at h
  case h_2 => contradiction
  case h_1 t =>
  obtain _ | ⟨hco, hl⟩ | _ := hl
  obtain _ | ⟨hcn, hl⟩ | _ := hl
  have ho := ho hco
  have hn := hn hcn
  obtain _ | ⟨hc, hl⟩ | _ := hl
  case nil => exact .inl (by simp [endsInAnyNo, ho, hn, startsInWord])
  case cons c d r t =>
    have hw : isWordChar c = false := by
      by_contra hw
      have hd := isWordChar_of_lowers hc (by simpa using hw)
      simp [startsInWord, hd] at h
    exact .inl (by simp [endsInAnyNo, ho, hn, startsInWord, hw])
  case dotted => exact .inr (by simp [endsInDottedNo, ho, hn])

theorem sentences_normalize (s : List Char) :
    sentences (normalize s) = sentences (squeeze isBlank (lowercase s)) := by
  rw [normalize, sentences_trim]

theorem sentences_squeeze_space (s : List Char) :
    sentences (squeeze isBlank (' ' :: s)) = sentences (squeeze isBlank s) := by
  obtain h | h := squeeze_cons_space (p := isBlank) rfl s
  · rw [h]
  · rw [h, sentences_cons rfl]

-- A period and a space end the sentences of a text.
theorem sentences_normalize_append (hn : endsInAnyNo s.reverse = false)
    (hd : endsInDottedNo s.reverse = false) (t : List Char) :
    sentences (normalize (s ++ '.' :: ' ' :: t)) =
      sentences (normalize s) ++ sentences (normalize t) := by
  have hp : isBlank '.' = false := by decide
  have he : endsInNo (squeeze isBlank (lowercase s)).reverse = false := by
    rw [endsInNo_squeeze]
    by_contra he
    have h := endsInNo_lowercase (by simpa using he)
    simp [hn, hd] at h
  rw [sentences_normalize, lowercase_append, squeeze_append hp, sentences_append he,
    sentences_squeeze_space, sentences_normalize, sentences_normalize]

end Normal

end Enunciado.Prose

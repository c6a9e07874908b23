import Enunciado.Proofs.Text.Blank
import Enunciado.Proofs.Text.Mark

namespace Enunciado.Text

variable {c d : Char} {p : Char → Bool} {s t : List Char}

section Runs

theorem runs_cons_of_not (h : p c = false) (s : List Char) : runs p (c :: s) = runs p s := by
  rw [runs.eq_def]
  simp [h]

theorem runs_cons_cons_of_not (hc : p c) (hd : p d = false) (s : List Char) :
    runs p (c :: d :: s) = [c] :: runs p s := by
  rw [runs.eq_def]
  simp only [hc, if_true, runs_cons_of_not hd]
  cases runs p s <;> simp [hd]

theorem exists_runs_cons (h : p c) (s : List Char) : ∃ r rs, runs p (c :: s) = r :: rs := by
  rw [runs.eq_def]
  simp only [h, if_true]
  split
  · split <;> exact ⟨_, _, rfl⟩
  · exact ⟨_, _, rfl⟩

theorem runs_cons_cons (hc : p c) (hd : p d) (s : List Char) :
    ∃ r rs, runs p (d :: s) = r :: rs ∧ runs p (c :: d :: s) = (c :: r) :: rs := by
  have ⟨r, rs, hr⟩ := exists_runs_cons hd s
  refine ⟨r, rs, hr, ?_⟩
  rw [runs.eq_def]
  simp [hc, hd, hr]

theorem runs_append_cons (h : p d = false) (s t : List Char) :
    runs p (s ++ d :: t) = runs p s ++ runs p t := by
  induction s
  case nil => rw [List.nil_append, runs_cons_of_not h]; rfl
  case cons c s hi =>
    cases hc : p c
    case false => rw [List.cons_append, runs_cons_of_not hc, runs_cons_of_not hc, hi]
    case true =>
      match s with
      | [] => simp [runs_cons_cons_of_not hc h, runs, hc]
      | e :: s =>
        cases he : p e
        case false =>
          rw [List.cons_append, runs_cons_of_not he, runs_cons_of_not he] at hi
          rw [List.cons_append, List.cons_append, runs_cons_cons_of_not hc he, hi,
            runs_cons_cons_of_not hc he, List.cons_append]
        case true =>
          obtain ⟨r, rs, hr, hrs⟩ := runs_cons_cons hc he s
          obtain ⟨r', rs', hr', hrs'⟩ := runs_cons_cons hc he (s ++ d :: t)
          rw [List.cons_append, hr', hr, List.cons_append, List.cons.injEq] at hi
          rw [List.cons_append, List.cons_append, hrs', hrs, hi.1, hi.2, List.cons_append]

end Runs

section Blanks

-- The characters in the ranges.
def charsOf (l : List CodeRange) : List Char :=
  l.flatMap fun r => (List.range (r.2 + 1 - r.1)).map fun i => Char.ofNat (r.1 + i)

theorem mem_charsOf {l : List CodeRange} (h : covers l c.toNat) : c ∈ charsOf l := by
  obtain ⟨r, hr, h₁, h₂⟩ := exists_of_covers h
  refine List.mem_flatMap.mpr ⟨r, hr, List.mem_map.mpr ⟨c.toNat - r.1, ?_, ?_⟩⟩
  · exact List.mem_range.mpr (by omega)
  · rw [Nat.add_sub_cancel' h₁, Char.ofNat_toNat]

-- Some blanks stand for others of the same width.
theorem exists_starters_blank (h : isBlank c) : ∃ d, starters c = [d] ∧ isBlank d := by
  have hs : (charsOf blanks).all fun c =>
      (starters c).length = 1 && (starters c).all isBlank := by
    decide +kernel
  have hc := List.all_eq_true.mp hs c (mem_charsOf h)
  rw [Bool.and_eq_true, decide_eq_true_eq, List.all_eq_true] at hc
  obtain ⟨d, hd⟩ := List.length_eq_one_iff.mp hc.1
  exact ⟨d, hd, hc.2 d (hd ▸ List.mem_singleton_self d)⟩

theorem words_stripMarks_append (h : isBlank c) (s t : List Char) :
    words (stripMarks (s ++ c :: t)) = words (stripMarks s) ++ words (stripMarks t) := by
  obtain ⟨d, hd, hb⟩ := exists_starters_blank h
  have hs : stripMarks (s ++ c :: t) = stripMarks s ++ d :: stripMarks t := by
    simp [stripMarks_eq, hd]
  rw [hs, words, runs_append_cons (not_isWordChar_of_isBlank hb), words, words]

end Blanks

end Enunciado.Text

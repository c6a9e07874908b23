import Mathlib.Data.List.DropRight
import Enunciado.Proofs.Text.CodeRange
import Enunciado.Text.Blank
import Enunciado.Text.Word

namespace Enunciado.Text

variable {c : Char} {s t : List Char} {p : Char → Bool}

theorem not_isWordChar_of_isBlank (h : isBlank c) : isWordChar c = false := by
  have ha : isAlphanumeric c = false := not_covers_of_apart (by decide +kernel) h
  have hu : c ≠ '_' := by
    rintro rfl
    revert h
    decide
  simp [isWordChar, ha, hu]

theorem startsInWord_eq_false_iff :
    startsInWord s = false ↔ ∀ c ∈ s.head?, isWordChar c = false := by
  cases s <;> simp [startsInWord]

theorem startsInWord_reverse_eq_false_iff :
    startsInWord s.reverse = false ↔ ∀ c ∈ s.getLast?, isWordChar c = false := by
  rw [startsInWord_eq_false_iff, List.head?_reverse]

section Trim

theorem trim_cons (h : isBlank c) : trim (c :: s) = trim s := by
  rw [trim, List.dropWhile_cons_of_pos h, trim]

theorem trim_concat (h : isBlank c) : trim (s ++ [c]) = trim s := by
  rw [trim, trim, List.dropWhile_append]
  split
  case isTrue hs => simp [List.isEmpty_iff.mp hs, h]
  case isFalse => exact List.rdropWhile_concat_pos _ _ _ h

theorem trim_append_left (h : ∀ c ∈ s, isBlank c) : trim (s ++ t) = trim t := by
  induction s
  case nil => rfl
  case cons c s hi =>
    have ⟨hc, hs⟩ := List.forall_mem_cons.mp h
    rw [List.cons_append, trim_cons hc, hi hs]

theorem trim_append_right (h : ∀ c ∈ t, isBlank c) : trim (s ++ t) = trim s := by
  induction t generalizing s
  case nil => rw [List.append_nil]
  case cons c t hi =>
    have ⟨hc, ht⟩ := List.forall_mem_cons.mp h
    rw [List.append_cons, hi ht, trim_concat hc]

-- A text is its trimmed form between blanks.
theorem exists_blanks (s : List Char) :
    ∃ before after, s = before ++ trim s ++ after ∧
      (∀ c ∈ before, isBlank c) ∧ ∀ c ∈ after, isBlank c := by
  refine ⟨s.takeWhile isBlank, (s.dropWhile isBlank).rtakeWhile isBlank, ?_, ?_, ?_⟩
  · have h := List.rdropWhile_append_rtakeWhile (p := isBlank) (l := s.dropWhile isBlank)
    rw [trim, List.append_assoc]
    exact (List.takeWhile_append_dropWhile.symm).trans (congrArg _ h.symm)
  · exact fun c hc => List.mem_takeWhile_imp hc
  · exact fun c hc => List.mem_rtakeWhile_imp hc

theorem trim_ne_nil (hc : c ∈ s) (hb : isBlank c = false) : trim s ≠ [] := by
  have ⟨before, after, hs, hbefore, hafter⟩ := exists_blanks s
  intro hn
  rw [hs, hn, List.append_nil] at hc
  obtain hc | hc := List.mem_append.mp hc
  · simp [hbefore c hc] at hb
  · simp [hafter c hc] at hb

theorem dropWhile_isBlank (h : ∀ c ∈ s.head?, isBlank c = false) : s.dropWhile isBlank = s := by
  cases s
  case nil => rfl
  case cons c s => rw [List.dropWhile_cons_of_neg (by simp [h c rfl])]

theorem trim_eq_self (hs : ∀ c ∈ s.head?, isBlank c = false)
    (ht : ∀ c ∈ s.getLast?, isBlank c = false) : trim s = s := by
  rw [trim, dropWhile_isBlank hs]
  refine List.rdropWhile_eq_self_iff.mpr fun hn => ?_
  simp [ht _ (List.getLast?_eq_some_getLast hn)]

theorem head_trim (s : List Char) : ∀ c ∈ (trim s).head?, isBlank c = false := by
  have hd := List.head?_dropWhile_not isBlank s
  intro c hc
  have ⟨r, hr⟩ := List.rdropWhile_prefix isBlank (s.dropWhile isBlank)
  have hs : (s.dropWhile isBlank).head? = some c := by
    rw [← hr, List.head?_append]
    exact Option.or_eq_some_iff.mpr (.inl hc)
  simpa [hs] using hd

theorem getLast_trim (s : List Char) : ∀ c ∈ (trim s).getLast?, isBlank c = false := by
  intro c hc
  have hn : trim s ≠ [] := by rintro h; simp [h] at hc
  obtain rfl : (trim s).getLast hn = c := by simpa [List.getLast?_eq_some_getLast hn] using hc
  exact Bool.eq_false_iff.mpr (List.rdropWhile_last_not isBlank (s.dropWhile isBlank) hn)

theorem trim_trim (s : List Char) : trim (trim s) = trim s :=
  trim_eq_self (head_trim s) (getLast_trim s)

theorem dropWhile_append_cons (h : p c = false) (s t : List Char) :
    (s ++ c :: t).dropWhile p = s.dropWhile p ++ c :: t := by
  rw [List.dropWhile_append]
  split
  case isTrue hs => rw [List.isEmpty_iff.mp hs, List.dropWhile_cons_of_neg (by simp [h]),
    List.nil_append]
  case isFalse => rfl

theorem dropEnd_append_cons (h : p c = false) (s t : List Char) :
    dropEnd p (s ++ c :: t) = s ++ c :: dropEnd p t := by
  simp [dropEnd, dropWhile_append_cons h]

theorem eq_nil_of_trim (h : trim (s ++ t) = s ++ t) (ht : ∀ c ∈ t, isBlank c) : t = [] := by
  obtain rfl | ⟨t, c, rfl⟩ := t.eq_nil_or_concat'
  case inl => rfl
  case inr =>
    have hc := getLast_trim (s ++ (t ++ [c])) c (by rw [h]; simp)
    simp [ht c (by simp)] at hc

end Trim

section Squeeze

theorem squeezeGo_append (h : p c = false) (inRun : Bool) (s t : List Char) :
    squeeze.go p inRun (s ++ c :: t) = squeeze.go p inRun s ++ c :: squeeze p t := by
  induction s generalizing inRun
  case nil => simp [squeeze.go, h, squeeze]
  case cons d s hi =>
    simp only [List.cons_append, squeeze.go, hi]
    split_ifs <;> rfl

-- A character that stays parts the runs before it from those after it.
theorem squeeze_append (h : p c = false) (s t : List Char) :
    squeeze p (s ++ c :: t) = squeeze p s ++ c :: squeeze p t :=
  squeezeGo_append h false s t

theorem squeeze_concat (h : p c = false) (s : List Char) :
    squeeze p (s ++ [c]) = squeeze p s ++ [c] :=
  squeeze_append h s []

theorem squeezeGo_eq_self (h : ¬[' ', ' '] <:+: s) (inRun : Bool)
    (hs : inRun → ∀ c ∈ s.head?, c ≠ ' ') : squeeze.go (· = ' ') inRun s = s := by
  induction s generalizing inRun
  case nil => rfl
  case cons c s hi =>
    have ht : ¬[' ', ' '] <:+: s := fun hm => h (List.infix_cons hm)
    rw [squeeze.go]
    split_ifs with hc hr
    case pos => exact absurd (of_decide_eq_true hc) (hs hr c rfl)
    case neg =>
      obtain rfl : c = ' ' := of_decide_eq_true hc
      refine congrArg _ (hi ht true fun _ d hd => ?_)
      rintro rfl
      obtain ⟨t, rfl⟩ := List.head?_eq_some_iff.mp hd
      exact h (List.prefix_append [' ', ' '] t).isInfix
    case neg => exact congrArg _ (hi ht false nofun)

-- A text without two spaces on end is left as it is.
theorem squeeze_eq_self (h : ¬[' ', ' '] <:+: s) : squeeze (· = ' ') s = s :=
  squeezeGo_eq_self h false nofun

theorem squeezeGo_concat_blank (h : p c) (inRun : Bool) (s : List Char) :
    (inRun ∧ squeeze.go p inRun (s ++ [c]) = []) ∨
      ∃ t, squeeze.go p inRun (s ++ [c]) = t ++ [' '] := by
  induction s generalizing inRun
  case nil =>
    cases inRun
    case true => exact .inl (by simp [squeeze.go, h])
    case false => exact .inr ⟨[], by simp [squeeze.go, h]⟩
  case cons d s hi =>
    rw [List.cons_append, squeeze.go]
    split_ifs with hd hr
    case pos => exact (hi true).imp_left fun ⟨_, he⟩ => ⟨hr, he⟩
    case neg =>
      obtain ⟨-, he⟩ | ⟨t, ht⟩ := hi true
      · exact .inr ⟨[], by rw [he, List.nil_append]⟩
      · exact .inr ⟨' ' :: t, by rw [ht, List.cons_append]⟩
    case neg =>
      obtain ⟨hf, -⟩ | ⟨t, ht⟩ := hi false
      · contradiction
      · exact .inr ⟨d :: t, by rw [ht, List.cons_append]⟩

theorem exists_squeeze_concat_blank (h : p c) (s : List Char) :
    ∃ t, squeeze p (s ++ [c]) = t ++ [' '] :=
  (squeezeGo_concat_blank h false s).resolve_left (by simp)

-- A blank before a text with blanks at its beginning makes no difference.
theorem squeeze_cons_space (h : p ' ') (s : List Char) :
    squeeze p (' ' :: s) = squeeze p s ∨ squeeze p (' ' :: s) = ' ' :: squeeze p s := by
  cases s
  case nil => exact .inr (by simp [squeeze, squeeze.go, h])
  case cons c s => cases hc : p c <;> simp [squeeze, squeeze.go, h, hc]

-- A text ends in a word exactly if it does so with its blanks collapsed.
theorem startsInWord_squeeze (s : List Char) :
    startsInWord (squeeze isBlank s).reverse = startsInWord s.reverse := by
  obtain rfl | ⟨s, c, rfl⟩ := s.eq_nil_or_concat'
  case inl => rfl
  case inr =>
    cases hc : isBlank c
    case false => rw [squeeze_concat hc]; simp [startsInWord]
    case true =>
      obtain ⟨t, ht⟩ := exists_squeeze_concat_blank hc s
      rw [ht]
      simp only [List.reverse_append, List.reverse_singleton, List.singleton_append, startsInWord,
        not_isWordChar_of_isBlank hc]
      exact not_isWordChar_of_isBlank rfl

end Squeeze

end Enunciado.Text

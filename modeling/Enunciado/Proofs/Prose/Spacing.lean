import Mathlib.Data.List.Chain
import Mathlib.Data.List.Infix
import Enunciado.Proofs.Prose.Sentence

namespace Enunciado.Prose

open Text

variable {c : Char} {s t : List Char}

-- A text whose only blanks are single spaces.
structure SingleSpaced (s : List Char) : Prop where
  spaces : ∀ c ∈ s, isBlank c → c = ' '
  single : s.IsChain fun c d => ¬(isBlank c ∧ isBlank d)

instance (s : List Char) : Decidable (SingleSpaced s) :=
  decidable_of_iff (s.all (fun c => !isBlank c || c = ' ') ∧
      s.IsChain fun c d => ¬(isBlank c ∧ isBlank d)) <| by
    rw [List.all_eq_true]
    exact ⟨fun ⟨h, h'⟩ => ⟨fun c hc hb => by simpa [hb] using h c hc, h'⟩,
      fun h => ⟨fun c hc => by simpa [Decidable.imp_iff_not_or] using h.spaces c hc, h.single⟩⟩

namespace SingleSpaced

theorem mono (h : SingleSpaced s) (ht : t <:+: s) : SingleSpaced t :=
  ⟨fun c hc => h.spaces c (ht.subset hc), h.single.infix ht⟩

theorem of_append (h : SingleSpaced (t ++ s)) : SingleSpaced s :=
  h.mono (List.suffix_append t s).isInfix

theorem nil : SingleSpaced [] :=
  ⟨nofun, .nil⟩

theorem cons (h : SingleSpaced s) (hc : isBlank c → c = ' ')
    (hs : isBlank c → ∀ d ∈ s.head?, isBlank d = false) : SingleSpaced (c :: s) where
  spaces := List.forall_mem_cons.mpr ⟨hc, h.spaces⟩
  single := List.isChain_cons.mpr ⟨fun d hd ⟨hb, hd'⟩ => by simp [hs hb d hd] at hd', h.single⟩

-- After a space comes no other blank.
theorem head (h : SingleSpaced (' ' :: s)) : ∀ c ∈ s.head?, isBlank c = false := by
  have hs := (List.isChain_cons.mp h.single).1
  intro c hc
  simpa [show isBlank ' ' = true by decide] using hs c hc

-- Of the blanks before the first other character there is at most one.
theorem dropWhile (h : SingleSpaced s) :
    s.dropWhile isBlank = s ∨ s = ' ' :: s.dropWhile isBlank := by
  match s with
  | [] => exact .inl rfl
  | c :: s =>
    cases hc : isBlank c
    case false => exact .inl (List.dropWhile_cons_of_neg (by simp [hc]))
    case true =>
      obtain rfl := h.spaces c (by simp) hc
      rw [List.dropWhile_cons_of_pos hc, dropWhile_isBlank h.head]
      exact .inr rfl

end SingleSpaced

section Normal

theorem singleSpaced_squeezeGo (inRun : Bool) (s : List Char) :
    SingleSpaced (squeeze.go isBlank inRun s) ∧
      (inRun → ∀ c ∈ (squeeze.go isBlank inRun s).head?, isBlank c = false) := by
  induction s generalizing inRun
  case nil => exact ⟨.nil, fun _ => nofun⟩
  case cons c s hi =>
    rw [squeeze.go]
    split
    case isTrue hc =>
      obtain ⟨hs, hh⟩ := hi true
      split
      case isTrue => exact ⟨hs, fun _ => hh rfl⟩
      case isFalse hr => exact ⟨hs.cons (fun _ => rfl) fun _ => hh rfl, fun h => absurd h hr⟩
    case isFalse hc =>
      exact ⟨(hi false).1.cons (by simp [hc]) (by simp [hc]), fun _ => by simpa using hc⟩

theorem trim_isInfix (s : List Char) : trim s <:+: s := by
  have ⟨before, after, hs, _⟩ := exists_blanks s
  exact ⟨before, after, hs.symm⟩

theorem singleSpaced_normalize (s : List Char) : SingleSpaced (normalize s) :=
  (singleSpaced_squeezeGo false (lowercase s)).1.mono (trim_isInfix _)

theorem infix_of_mem_pieces (h : t ∈ pieces before s) : t <:+: before.reverse ++ s := by
  induction s generalizing before
  case nil =>
    rw [pieces, List.mem_singleton] at h
    exact ⟨[], [], by simp [h]⟩
  case cons c s hi =>
    rw [pieces] at h
    split at h
    case isTrue =>
      obtain rfl | h := List.mem_cons.mp h
      · exact (List.prefix_append _ _).isInfix
      · exact (hi h).trans ((List.suffix_cons c s).trans (List.suffix_append _ _)).isInfix
    case isFalse =>
      have ht := hi h
      rwa [List.reverse_cons, List.append_assoc, List.singleton_append] at ht

theorem infix_of_mem_sentences (h : t ∈ sentences s) : t <:+: s := by
  obtain ⟨h, -⟩ := List.mem_filter.mp h
  obtain ⟨p, hp, rfl⟩ := List.mem_map.mp h
  exact (trim_isInfix p).trans (infix_of_mem_pieces hp)

theorem singleSpaced_of_mem_sentences (h : t ∈ sentences (normalize s)) : SingleSpaced t :=
  (singleSpaced_normalize s).mono (infix_of_mem_sentences h)

end Normal

end Enunciado.Prose

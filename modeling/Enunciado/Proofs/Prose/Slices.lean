import Enunciado.Json.Literal
import Enunciado.Proofs.Prose.Sentence

namespace Enunciado.Prose

open Text

-- A text that ends in the word "no".
def EndsInNo (s : List Char) : Prop :=
  ∃ t, s = t ++ ['n', 'o'] ∧ ∀ c ∈ t.getLast?, isWordChar c = false

-- Every period of the text comes right after the word "no".
def PeriodsAfterNo (s : List Char) : Prop :=
  ∀ t u, s = t ++ '.' :: u → EndsInNo t

-- A text without blanks around it in which no period ends a sentence.
structure IsSentence (s : List Char) : Prop where
  ne_nil  : s ≠ []
  trimmed : trim s = s
  periods : PeriodsAfterNo s

-- `Slices u s ss` says that, read after the text `u`, the text `s` consists of the slices `ss` in
-- their order, with nothing between them but blanks and periods that do not come right after "no".
inductive Slices : List Char → List Char → List (List Char) → Prop
  | nil {u} : Slices u [] []
  | blank {u c s ss} : isBlank c → Slices (u ++ [c]) s ss → Slices u (c :: s) ss
  | period {u s ss} : ¬EndsInNo u → Slices (u ++ ['.']) s ss → Slices u ('.' :: s) ss
  | slice {u t s ss} : Slices (u ++ t) s ss → Slices u (t ++ s) (t :: ss)

variable {c : Char} {b s t u : List Char} {ss : List (List Char)}

section No

theorem endsInNo_reverse_iff : endsInNo s.reverse ↔ EndsInNo s := by
  constructor
  case mp =>
    intro h
    unfold endsInNo at h
    split at h
    case h_1 t hs =>
      refine ⟨t.reverse, by simpa using congrArg List.reverse hs, ?_⟩
      rw [← startsInWord_reverse_eq_false_iff, List.reverse_reverse]
      simpa using h
    case h_2 => contradiction
  case mpr =>
    rintro ⟨t, rfl, h⟩
    rw [← startsInWord_reverse_eq_false_iff] at h
    simp [endsInNo, h]

-- Where no word goes on, what was before does not tell whether a text ends in "no".
theorem endsInNo_append (h : startsInWord u.reverse = false) : EndsInNo (u ++ s) ↔ EndsInNo s := by
  obtain rfl | ⟨u, c, rfl⟩ := u.eq_nil_or_concat'
  case inl => rfl
  case inr =>
    have hc : isWordChar c = false := by simpa [startsInWord] using h
    rw [← endsInNo_reverse_iff, ← endsInNo_reverse_iff, List.append_assoc, List.singleton_append,
      List.reverse_append, List.reverse_cons, List.append_assoc, List.singleton_append,
      endsInNo_append_cons hc]

theorem startsInWord_of_blanks (h : ∀ c ∈ b, isBlank c) : startsInWord b.reverse = false :=
  startsInWord_reverse_eq_false_iff.mpr fun c hc =>
    not_isWordChar_of_isBlank (h c (List.mem_of_mem_getLast? hc))

end No

section Periods

theorem PeriodsAfterNo.concat (h : PeriodsAfterNo s) (hc : c = '.' → EndsInNo s) :
    PeriodsAfterNo (s ++ [c]) := by
  intro t u hs
  obtain rfl | ⟨u, d, rfl⟩ := u.eq_nil_or_concat'
  case inl =>
    obtain ⟨rfl, hd⟩ := List.append_inj' hs rfl
    exact hc (List.singleton_inj.mp hd)
  case inr =>
    rw [← List.cons_append, ← List.append_assoc] at hs
    exact h t u (List.append_inj' hs rfl).1

theorem PeriodsAfterNo.trim (h : PeriodsAfterNo s) : PeriodsAfterNo (trim s) := by
  have ⟨before, after, hs, hb, _⟩ := exists_blanks s
  intro t u ht
  have hn : EndsInNo (before ++ t) := h (before ++ t) (u ++ after) (by rw [hs, ht]; simp)
  exact (endsInNo_append (startsInWord_of_blanks hb)).mp hn

-- The piece that has begun is given backwards.
theorem periodsAfterNo_of_mem_pieces (h : PeriodsAfterNo b.reverse) (ht : t ∈ pieces b s) :
    PeriodsAfterNo t := by
  induction s generalizing b
  case nil =>
    obtain rfl := List.mem_singleton.mp ht
    exact h
  case cons c s hi =>
    rw [pieces] at ht
    split at ht
    case isTrue =>
      obtain rfl | ht := List.mem_cons.mp ht
      · exact h
      · exact hi (by simp [PeriodsAfterNo]) ht
    case isFalse hc =>
      refine hi ?_ ht
      rw [List.reverse_cons]
      refine h.concat fun hp => ?_
      rw [← endsInNo_reverse_iff, List.reverse_reverse]
      simpa [hp] using hc

theorem pieces_eq_singleton (h : ∀ t u, s = t ++ '.' :: u → endsInNo (t.reverse ++ b)) :
    pieces b s = [b.reverse ++ s] := by
  induction s generalizing b
  case nil => rw [pieces, List.append_nil]
  case cons c s hi =>
    have hc : ¬(c = '.' && !endsInNo b) := by
      rw [Bool.and_eq_true, decide_eq_true_eq]
      rintro ⟨rfl, hb⟩
      have hn := h [] s rfl
      simp_all
    rw [pieces, if_neg hc, hi fun t u ht => ?_]
    · simp
    · simpa using h (c :: t) u (by rw [ht, List.cons_append])

end Periods

theorem isSentence_of_mem_sentences (h : s ∈ sentences t) : IsSentence s := by
  obtain ⟨h, hn⟩ := List.mem_filter.mp h
  obtain ⟨p, hp, rfl⟩ := List.mem_map.mp h
  have hb : PeriodsAfterNo ([] : List Char).reverse := by simp [PeriodsAfterNo]
  exact ⟨of_decide_eq_true hn, trim_trim p, (periodsAfterNo_of_mem_pieces hb hp).trim⟩

theorem IsSentence.sentences_eq (h : IsSentence s) : sentences s = [s] := by
  have hp : pieces [] s = [s] := pieces_eq_singleton fun t u ht => by
    rw [List.append_nil]
    exact endsInNo_reverse_iff.mpr (h.periods t u ht)
  simp [sentences, hp, h.trimmed, h.ne_nil]

section Slices

theorem Slices.blanks (hb : ∀ c ∈ b, isBlank c) (h : Slices (u ++ b) s ss) :
    Slices u (b ++ s) ss := by
  induction b generalizing u
  case nil => rwa [List.append_nil] at h
  case cons c b hi =>
    have ⟨hc, hb⟩ := List.forall_mem_cons.mp hb
    exact .blank hc (hi hb (by rwa [List.append_assoc, List.singleton_append]))

-- What is left of a piece without the blanks around it is a slice, or nothing.
theorem Slices.trim (h : Slices (u ++ t) s ss) :
    Slices u (t ++ s) ([trim t].filter (· ≠ []) ++ ss) := by
  have ⟨before, after, ht, hb, ha⟩ := exists_blanks t
  have ha : Slices (u ++ before ++ Text.trim t) (after ++ s) ss := by
    refine .blanks ha ?_
    rwa [List.append_assoc, List.append_assoc, ← List.append_assoc before, ← ht]
  have hs : t ++ s = before ++ (Text.trim t ++ (after ++ s)) := by
    rw [← List.append_assoc, ← List.append_assoc, ← ht]
  rw [hs]
  refine .blanks hb ?_
  by_cases hn : Text.trim t = []
  case pos =>
    rw [hn, List.append_nil] at ha
    simpa [hn] using ha
  case neg => simpa [hn] using Slices.slice ha

-- The piece that has begun is given backwards; no word goes on from before it.
theorem slices_pieces (hu : startsInWord u.reverse = false) (b s : List Char) :
    Slices u (b.reverse ++ s) (((pieces b s).map trim).filter (· ≠ [])) := by
  induction s generalizing b u
  case nil => simpa [pieces] using Slices.trim (u := u) (t := b.reverse) .nil
  case cons c s hi =>
    rw [pieces]
    split
    case isTrue hc =>
      obtain ⟨rfl, hn⟩ : c = '.' ∧ endsInNo b = false := by simpa using hc
      have hd : isWordChar '.' = false := by decide +kernel
      have hp : startsInWord (u ++ b.reverse ++ ['.']).reverse = false := by
        rw [List.reverse_concat]
        exact hd
      have hno : ¬EndsInNo (u ++ b.reverse) := by
        rw [endsInNo_append hu, ← endsInNo_reverse_iff, List.reverse_reverse, hn]
        simp
      have h := Slices.trim (.period hno (hi hp []))
      simpa only [List.map_cons, ← List.filter_append, List.singleton_append, List.reverse_nil,
        List.nil_append] using h
    case isFalse =>
      have h := hi hu (c :: b)
      rwa [List.reverse_cons, List.append_assoc, List.singleton_append] at h

end Slices

theorem sentences_joinWith (h : ∀ s ∈ ss, IsSentence s ∧ ¬EndsInNo s) :
    sentences (joinWith ['.', ' '] ss) = ss := by
  induction ss
  case nil => rfl
  case cons s ss hi =>
    have ⟨⟨hs, hn⟩, ht⟩ := List.forall_mem_cons.mp h
    cases ss
    case nil => exact hs.sentences_eq
    case cons t ss =>
      have hn : endsInNo s.reverse = false :=
        Bool.eq_false_iff.mpr fun h => hn (endsInNo_reverse_iff.mp h)
      calc
        sentences (joinWith ['.', ' '] (s :: t :: ss)) =
            sentences (s ++ '.' :: ' ' :: joinWith ['.', ' '] (t :: ss)) := by
          rw [joinWith, List.append_assoc] <;> simp
        _ = s :: t :: ss := by
          rw [sentences_append hn, hs.sentences_eq, sentences_cons rfl, hi ht,
            List.singleton_append]

-- The sentences of a text are slices of it that are parted no further, and nothing else is left of
-- it but blanks and the periods that end them; joined by periods they are found again, unless one
-- of them keeps its period.
theorem sentences_are_slices (text : List Char) :
    (∀ s ∈ sentences text, IsSentence s ∧ sentences s = [s]) ∧
    Slices [] text (sentences text) ∧
    ∀ ss, (∀ s ∈ ss, IsSentence s ∧ ¬EndsInNo s) → sentences (joinWith ['.', ' '] ss) = ss := by
  refine ⟨fun s hs => ?_, slices_pieces rfl [] text, fun ss h => sentences_joinWith h⟩
  have h := isSentence_of_mem_sentences hs
  exact ⟨h, h.sentences_eq⟩

theorem sentences_are_slices_with_period_kept :
    let text := "  Si no. Dr.  Mañana no..sino. ".toList
    let ss := ["Mañana no.".toList, "sino".toList]
    sentences text = ["Si no. Dr".toList, "Mañana no.".toList, "sino".toList] ∧
    (∀ s ∈ sentences text, IsSentence s ∧ sentences s = [s]) ∧
    Slices [] text (sentences text) ∧
    (∀ s ∈ ss, IsSentence s ∧ ¬EndsInNo s) ∧ sentences (joinWith ['.', ' '] ss) = ss := by
  intro text ss
  have ⟨hs, hl, hj⟩ := sentences_are_slices text
  have ht : sentences text = ["Si no. Dr".toList, "Mañana no.".toList, "sino".toList] := by
    decide +kernel
  have hss : ∀ s ∈ ss, IsSentence s ∧ ¬EndsInNo s := by
    have hn : ∀ s ∈ ss, endsInNo s.reverse = false := by decide +kernel
    intro s hm
    refine ⟨(hs s (by rw [ht]; exact List.mem_cons_of_mem _ hm)).1, fun h => ?_⟩
    rw [← endsInNo_reverse_iff, hn s hm] at h
    contradiction
  exact ⟨ht, hs, hl, hss, hj ss hss⟩

end Enunciado.Prose

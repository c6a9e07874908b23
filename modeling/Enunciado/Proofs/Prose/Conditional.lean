import Mathlib.Data.List.Sublists
import Enunciado.Proofs.Prose.Spacing
import Enunciado.Prose.Conditional

namespace Enunciado.Prose

open Text

section Search

variable {α β : Type} {g : List α → List α → Option β} {s : List α} {c : α} {b : β} {o : Option β}

-- What comes of a search for the first place at which `g` gives something, when it is given what is
-- before the place and what is after it.
inductive Search (g : List α → List α → Option β) (s : List α) : Option β → Prop
  | found {p t b} :
    p ++ t = s → g p t = some b → (∀ p' t', p' ++ t' = s → g p' t' ≠ none → p.length ≤ p'.length) →
    Search g s (some b)
  | missing :
    (∀ p t, p ++ t = s → g p t = none) → Search g s none

namespace Search

theorem here (h : g [] s = some b) : Search g s (some b) :=
  .found rfl h fun _ _ _ _ => Nat.zero_le _

theorem nil (h : g [] [] = none) : Search g [] none :=
  .missing fun p t hs => by
    obtain ⟨rfl, rfl⟩ := List.append_eq_nil_iff.mp hs
    exact h

theorem cons (hn : g [] (c :: s) = none) (h : Search (fun p => g (c :: p)) s o) :
    Search g (c :: s) o := by
  cases h
  case found p t b hs hf hm =>
    refine .found (congrArg (c :: ·) hs) hf fun p' t' hs' hg => ?_
    obtain ⟨rfl, rfl⟩ | ⟨p', rfl, he⟩ := List.append_eq_cons_iff.mp hs'
    · exact absurd hn hg
    · exact Nat.succ_le_succ (hm p' t' he.symm hg)
  case missing hm =>
    refine .missing fun p t hs => ?_
    obtain ⟨rfl, rfl⟩ | ⟨p, rfl, he⟩ := List.append_eq_cons_iff.mp hs
    · exact hn
    · exact hm p t he.symm

theorem ne_none (h : Search g s o) (hs : p ++ t = s) (hg : g p t ≠ none) : o ≠ none := by
  cases h
  case found => exact Option.some_ne_none _
  case missing hm => exact absurd (hm p t hs) hg

end Search

end Search

variable {c : Char} {s t u v w a r : List Char}

section Gaps

-- At most one comma, with at most one space on either side.
def Gap (s : List Char) : Prop :=
  s.Sublist [' ', ',', ' ']

instance (s : List Char) : Decidable (Gap s) :=
  inferInstanceAs (Decidable (s.Sublist _))

theorem gap_iff :
    Gap s ↔ s ∈ [[], [' '], [','], [' ', ','], [' ', ' '], [',', ' '], [' ', ',', ' ']] := by
  have hs : List.sublists [' ', ',', ' '] =
      [[], [' '], [','], [' ', ','], [' '], [' ', ' '], [',', ' '], [' ', ',', ' ']] := rfl
  rw [Gap, ← List.mem_sublists, hs]
  simp only [List.mem_cons]
  tauto

theorem Gap.mem (h : Gap s) (hc : c ∈ s) : c = ' ' ∨ c = ',' := by
  have hm : c ∈ [' ', ',', ' '] := List.Sublist.mem hc h
  simp only [List.mem_cons, List.not_mem_nil, or_false] at hm
  tauto

theorem Gap.not_isWordChar (h : Gap s) (hc : c ∈ s) : isWordChar c = false := by
  obtain rfl | rfl := h.mem hc <;> decide +kernel

theorem skipComma_blank (h : isBlank c) : skipComma (c :: s) = skipComma s := by
  rw [skipComma, List.dropWhile_cons_of_pos h, skipComma]

theorem skipComma_comma (s : List Char) : skipComma (',' :: s) = s.dropWhile isBlank := by
  have hc : isBlank ',' = false := by decide
  rw [skipComma, List.dropWhile_cons_of_neg (by simp [hc])]
  rfl

theorem skipComma_of_ne (hs : ∀ c ∈ s.head?, isBlank c = false ∧ c ≠ ',') : skipComma s = s := by
  rw [skipComma, dropWhile_isBlank fun c hc => (hs c hc).1]
  split
  case h_1 t => exact absurd rfl (hs ',' rfl).2
  case h_2 => rfl

theorem skipComma_append (hv : Gap v) (ht : ∀ c ∈ t.head?, isBlank c = false ∧ c ≠ ',') :
    skipComma (v ++ t) = t := by
  have hb : isBlank ' ' = true := by decide
  have hs := skipComma_of_ne ht
  have hd := dropWhile_isBlank fun c hc => (ht c hc).1
  have hv := gap_iff.mp hv
  simp only [List.mem_cons, List.not_mem_nil, or_false] at hv
  obtain rfl | rfl | rfl | rfl | rfl | rfl | rfl := hv <;>
    simp [skipComma_blank hb, skipComma_comma, hs, hb, hd]

theorem exists_space (h : SingleSpaced s) :
    ∃ x, (x = [] ∨ x = [' ']) ∧ s = x ++ s.dropWhile isBlank :=
  h.dropWhile.elim (fun hs => ⟨[], .inl rfl, hs.symm⟩) fun hs => ⟨[' '], .inr rfl, hs⟩

theorem exists_gap (h : SingleSpaced s) : ∃ v, Gap v ∧ s = v ++ skipComma s := by
  obtain ⟨x, hx, hs⟩ := exists_space h
  unfold skipComma
  split
  case h_1 t ht =>
    rw [ht] at hs
    have hsp : SingleSpaced t := h.mono ⟨x ++ [','], [], by simp [hs]⟩
    obtain ⟨y, hy, ht⟩ := exists_space hsp
    refine ⟨x ++ ',' :: y, ?_, by rw [List.append_assoc, List.cons_append, ← ht, ← hs]⟩
    obtain rfl | rfl := hx <;> obtain rfl | rfl := hy <;> decide
  case h_2 => exact ⟨x, by obtain rfl | rfl := hx <;> decide, hs⟩

end Gaps

section Consequent

-- Whether blanks can stand for the consequent if nothing else can.
def blanksBefore (s : List Char) : Bool :=
  match s.dropWhile isBlank with
  | ',' :: t => startsBlank t || startsBlank s
  | _ => startsBlank s

theorem consequent?_eq (s : List Char) :
    consequent? s =
      if phrase (skipComma s) ≠ [] then some (trim (phrase (skipComma s)))
      else if blanksBefore s then some [] else none := by
  unfold consequent? skipComma blanksBefore
  generalize s.dropWhile isBlank = r
  dsimp only
  split
  case h_1 => rfl
  case h_2 hr => split <;> simp_all

theorem phrase_ne_nil_iff : phrase s ≠ [] ↔ ∃ c ∈ s.head?, c ≠ ',' ∧ c ≠ '.' := by
  cases s
  case nil => simp [phrase]
  case cons c s => by_cases h : c ≠ ',' ∧ c ≠ '.' <;> simp_all [phrase]

theorem startsBlank_iff (h : SingleSpaced s) : startsBlank s ↔ ∃ t, s = ' ' :: t := by
  cases s
  case nil => simp [startsBlank]
  case cons c s =>
    refine ⟨fun hc => ⟨s, by rw [h.spaces c (by simp) hc]⟩, ?_⟩
    rintro ⟨t, ⟨rfl⟩⟩
    rfl

theorem exists_of_blanksBefore (h : SingleSpaced s) (hb : blanksBefore s) :
    ∃ w c t, Gap w ∧ s = w ++ c :: t ∧ c ≠ ',' ∧ c ≠ '.' := by
  have here (hs : startsBlank s) : ∃ w c t, Gap w ∧ s = w ++ c :: t ∧ c ≠ ',' ∧ c ≠ '.' := by
    obtain ⟨t, rfl⟩ := (startsBlank_iff h).mp hs
    exact ⟨[], ' ', t, by decide, rfl, by decide⟩
  unfold blanksBefore at hb
  split at hb
  case h_1 t ht =>
    obtain hb | hb := Bool.or_eq_true_iff.mp hb
    case inr => exact here hb
    case inl =>
      obtain ⟨x, hx, hs⟩ := exists_space h
      rw [ht] at hs
      have hsp : SingleSpaced t := h.mono ⟨x ++ [','], [], by simp [hs]⟩
      obtain ⟨r, rfl⟩ := (startsBlank_iff hsp).mp hb
      refine ⟨x ++ [','], ' ', r, ?_, by simp [hs], by decide⟩
      obtain rfl | rfl := hx <;> decide
  case h_2 => exact here hb

theorem blanksBefore_append (hw : Gap w) (hc : isBlank c) (s : List Char) :
    blanksBefore (w ++ c :: s) := by
  have here {s : List Char} (hs : startsBlank s) : blanksBefore s := by
    unfold blanksBefore
    split <;> simp [hs]
  have hw := gap_iff.mp hw
  simp only [List.mem_cons, List.not_mem_nil, or_false] at hw
  obtain rfl | rfl | rfl | rfl | rfl | rfl | rfl := hw
  case inr.inr.inl => exact (Bool.or_eq_true_iff.mpr (.inl hc) : (startsBlank (c :: s) || _) = true)
  case inr.inr.inr.inr.inr.inl => rfl
  case inl => exact here hc
  all_goals exact here rfl

theorem consequent?_ne_none_iff (h : SingleSpaced s) :
    consequent? s ≠ none ↔ ∃ w c t, Gap w ∧ s = w ++ c :: t ∧ c ≠ ',' ∧ c ≠ '.' := by
  have hs : consequent? s ≠ none ↔ phrase (skipComma s) ≠ [] ∨ blanksBefore s := by
    rw [consequent?_eq]
    split_ifs <;> simp_all
  rw [hs]
  constructor
  case mp =>
    rintro (hp | hb)
    case inl =>
      obtain ⟨w, hw, hs⟩ := exists_gap h
      obtain ⟨c, hc, hne⟩ := phrase_ne_nil_iff.mp hp
      obtain ⟨t, ht⟩ := List.head?_eq_some_iff.mp hc
      exact ⟨w, c, t, hw, ht ▸ hs, hne⟩
    case inr => exact exists_of_blanksBefore h hb
  case mpr =>
    rintro ⟨w, c, t, hw, rfl, hc, hp⟩
    cases hb : isBlank c
    case false =>
      have hs : skipComma (w ++ c :: t) = c :: t := skipComma_append hw (by simpa using ⟨hb, hc⟩)
      exact .inl (by rw [hs]; exact phrase_ne_nil_iff.mpr ⟨c, rfl, hc, hp⟩)
    case true => exact .inr (blanksBefore_append hw hb t)

theorem consequent?_append (hw : Gap w) (hb : isBlank c = false) (hc : c ≠ ',') (hp : c ≠ '.')
    (s : List Char) : consequent? (w ++ c :: s) = some (trim (phrase (c :: s))) := by
  have hs : skipComma (w ++ c :: s) = c :: s := skipComma_append hw (by simpa using ⟨hb, hc⟩)
  rw [consequent?_eq, hs, if_pos (phrase_ne_nil_iff.mpr ⟨c, rfl, hc, hp⟩)]

theorem plain_of_consequent? (h : consequent? s = some t) : ',' ∉ t ∧ '.' ∉ t := by
  have hp (r : List Char) : ∀ c ∈ trim (phrase r), c ≠ ',' ∧ c ≠ '.' := fun c hc => by
    simpa using List.mem_takeWhile_imp (mem_of_mem_trim hc)
  rw [consequent?_eq] at h
  split at h
  case isTrue =>
    cases h
    exact ⟨fun hm => (hp _ _ hm).1 rfl, fun hm => (hp _ _ hm).2 rfl⟩
  case isFalse =>
    split at h <;> cases h
    simp

end Consequent

section Conclusion

theorem afterKeyword?_eq_some_iff :
    afterKeyword? w s = some r ↔ s = w ++ r ∧ startsInWord r = false := by
  simp only [afterKeyword?, Bool.and_eq_true, List.isPrefixOf_iff_prefix, Bool.not_eq_true',
    Option.ite_none_right_eq_some, Option.some.injEq]
  constructor
  case mp =>
    rintro ⟨⟨⟨t, rfl⟩, hr⟩, rfl⟩
    rw [List.drop_left] at hr ⊢
    exact ⟨rfl, hr⟩
  case mpr =>
    rintro ⟨rfl, hr⟩
    rw [List.drop_left]
    exact ⟨⟨List.prefix_append _ _, hr⟩, rfl⟩

-- What comes before the word "entonces" and after it. Only a gap may stand before it, and if there
-- is none, then what is before the text must not end in a word.
structure Concludes (inWord : Bool) (s v r : List Char) : Prop where
  gap    : Gap v
  text   : s = v ++ "entonces".toList ++ r
  begins : v = [] → inWord = false
  ends   : startsInWord r = false

theorem conclusion?_eq_some_iff (h : SingleSpaced s) {inWord : Bool} :
    conclusion? inWord s = some t ↔ ∃ v r, Concludes inWord s v r ∧ consequent? r = some t := by
  simp only [conclusion?, Option.ite_none_right_eq_some, Option.bind_eq_some_iff,
    afterKeyword?_eq_some_iff]
  constructor
  case mp =>
    rintro ⟨hp, r, ⟨hs, hr⟩, ht⟩
    obtain ⟨v, hv, hvs⟩ := exists_gap h
    rw [hs, ← List.append_assoc] at hvs
    refine ⟨v, r, ⟨hv, hvs, ?_, hr⟩, ht⟩
    rintro rfl
    subst hvs
    have he : isBlank 'e' = false := by decide
    simpa [he] using hp
  case mpr =>
    rintro ⟨v, r, ⟨hv, rfl, hb, hr⟩, ht⟩
    refine ⟨?_, r, ⟨?_, hr⟩, ht⟩
    case refine_1 =>
      cases v
      case nil => simp [hb]
      case cons c v => obtain rfl | rfl := hv.mem (List.mem_cons_self) <;> rfl
    case refine_2 =>
      rw [List.append_assoc]
      refine skipComma_append hv ?_
      rintro _ ⟨rfl⟩
      decide

end Conclusion

section Searches

-- What is found if the antecedent ends after `p`: it goes on from the characters `taken`, which are
-- given backwards.
def antecedentAt (taken p t : List Char) : Option (List Char × List Char) :=
  if ',' ∈ p then none
  else (conclusion? (startsInWord (p.reverse ++ taken)) t).map (trim (taken.reverse ++ p), ·)

theorem antecedentAt_eq_some_iff (h : SingleSpaced t) {taken p a c : List Char} :
    antecedentAt taken p t = some (a, c) ↔
      ',' ∉ p ∧ a = trim (taken.reverse ++ p) ∧
      ∃ v r, Concludes (startsInWord (p.reverse ++ taken)) t v r ∧ consequent? r = some c := by
  simp only [antecedentAt, Option.ite_none_left_eq_some, Option.map_eq_some_iff, Prod.mk.injEq,
    conclusion?_eq_some_iff h]
  constructor
  case mp =>
    rintro ⟨hp, _, hc, rfl, rfl⟩
    exact ⟨hp, rfl, hc⟩
  case mpr =>
    rintro ⟨hp, rfl, hc⟩
    exact ⟨hp, _, hc, rfl, rfl⟩

theorem search_extend? (taken s : List Char) : Search (antecedentAt taken) s (extend? taken s) := by
  induction s generalizing taken
  case nil =>
    rw [extend?]
    split
    case h_1 hc => exact .here (by simp [antecedentAt, hc])
    case h_2 hc => exact .nil (by simp [antecedentAt, hc])
  case cons c s hi =>
    rw [extend?]
    split
    case h_1 hc => exact .here (by simp [antecedentAt, hc])
    case h_2 hn =>
      have hn : antecedentAt taken [] (c :: s) = none := by simp [antecedentAt, hn]
      by_cases hc : c = ','
      case pos =>
        subst hc
        rw [if_pos rfl]
        refine .cons hn (.missing fun p t _ => if_pos List.mem_cons_self)
      case neg =>
        rw [if_neg hc]
        have hg : (fun p => antecedentAt taken (c :: p)) = antecedentAt (c :: taken) := by
          funext p t
          simp [antecedentAt, Ne.symm hc]
        exact .cons hn (hg ▸ hi (c :: taken))

-- What is found if `u` stands before "si"; the characters `before`, which are given backwards,
-- stand before the text.
def conditionalAt (before u : List Char) : List Char → Option (List Char × List Char)
  | 's' :: 'i' :: r => if startsInWord (u.reverse ++ before) then none else afterSi? r
  | _ => none

theorem conditionalAt_eq_some_iff {before : List Char} {parts : List Char × List Char} :
    conditionalAt before u t = some parts ↔
      ∃ r, t = 's' :: 'i' :: r ∧ startsInWord (u.reverse ++ before) = false ∧
        afterSi? r = some parts := by
  unfold conditionalAt
  split
  case h_1 r => simp
  case h_2 hn =>
    simp only [reduceCtorEq, false_iff]
    rintro ⟨r, rfl, -⟩
    exact hn r rfl

theorem conditionalFrom?_cons (before : List Char) (c : Char) (s : List Char) :
    conditionalFrom? (startsInWord before) (c :: s) =
      (conditionalAt before [] (c :: s)).or (conditionalFrom? (startsInWord (c :: before)) s) := by
  by_cases h : ∃ r, c = 's' ∧ s = 'i' :: r
  case pos =>
    obtain ⟨r, rfl, rfl⟩ := h
    rw [conditionalFrom?, conditionalAt, List.reverse_nil, List.nil_append]
    generalize (if startsInWord before then none else afterSi? r) = here
    cases here <;> rfl
  case neg =>
    have hn (r : List Char) (hc : c = 's') (hs : s = 'i' :: r) : False := h ⟨r, hc, hs⟩
    rw [conditionalFrom?, conditionalAt, Option.none_or]
    · rfl
    · exact fun r hs => hn r (List.head_eq_of_cons_eq hs) (List.tail_eq_of_cons_eq hs)
    · exact hn

theorem search_conditionalFrom? (before s : List Char) :
    Search (conditionalAt before) s (conditionalFrom? (startsInWord before) s) := by
  induction s generalizing before
  case nil => exact .nil rfl
  case cons c s hi =>
    rw [conditionalFrom?_cons]
    cases hc : conditionalAt before [] (c :: s)
    case some => exact .here hc
    case none =>
      have hg : (fun u => conditionalAt before (c :: u)) = conditionalAt (c :: before) := by
        funext u t
        unfold conditionalAt
        simp
      exact .cons hc (hg ▸ hi (c :: before))

theorem afterSi?_eq_some_iff (h : SingleSpaced s) {parts : List Char × List Char} :
    afterSi? s = some parts ↔
      ∃ c r, s = ' ' :: c :: r ∧ isBlank c = false ∧ c ≠ ',' ∧ extend? [c] r = some parts := by
  have hb : isBlank ' ' = true := by decide
  cases s
  case nil => simp [afterSi?]
  case cons d s =>
    cases hd : isBlank d
    case false =>
      rw [afterSi?, hd]
      simp only [Bool.false_eq_true, if_false, reduceCtorEq, List.cons.injEq, false_iff]
      rintro ⟨c, r, ⟨rfl, -⟩, -⟩
      simp [hb] at hd
    case true =>
      obtain rfl := h.spaces d (by simp) hd
      cases s
      case nil =>
        have hn : afterSi? [' '] = none := by decide
        simp [hn]
      case cons c s =>
        have hc : isBlank c = false := h.head c rfl
        have hs : afterSi? (' ' :: c :: s) = if c = ',' then none else extend? [c] s := by
          simp only [afterSi?, hb, if_true, List.dropWhile_cons_of_pos hb, startsBlank, hc,
            List.dropWhile_cons_of_neg (Bool.eq_false_iff.mp hc), Bool.false_eq_true, if_false]
          split <;> simp_all
        rw [hs, Option.ite_none_left_eq_some]
        constructor
        case mp =>
          rintro ⟨hne, he⟩
          exact ⟨c, s, rfl, hc, hne, he⟩
        case mpr =>
          rintro ⟨c, s, ⟨rfl⟩, -, h⟩
          exact h

end Searches

section Divisions

-- The parts of a conditional sentence: what comes before "si", the antecedent, the gap between it
-- and "entonces", the gap between that and the consequent, the consequent, and what is left.
structure Division where
  before     : List Char
  antecedent : List Char
  gap        : List Char
  gap'       : List Char
  consequent : List Char
  after      : List Char

namespace Division

-- What comes after "entonces".
def rest (d : Division) : List Char :=
  d.gap' ++ d.consequent ++ d.after

-- `d.Of s` says that the sentence `s` has the parts `d`, its "si" and its "entonces" being words.
structure Of (d : Division) (s : List Char) : Prop where
  text       : s =
    d.before ++ "si".toList ++ ' ' :: d.antecedent ++ d.gap ++ "entonces".toList ++ d.rest
  si         : ∀ c ∈ d.before.getLast?, isWordChar c = false
  begins     : ∀ c ∈ (d.antecedent ++ d.gap).getLast?, isWordChar c = false
  ends       : ∀ c ∈ d.rest.head?, isWordChar c = false
  antecedent : d.antecedent ≠ [] ∧ ',' ∉ d.antecedent
  gaps       : Gap d.gap ∧ Gap d.gap'
  consequent : d.consequent ≠ [] ∧ ',' ∉ d.consequent ∧ '.' ∉ d.consequent

-- Of all ways to part the sentence, none has its "si" before that of `d`, and none that has it at
-- the same place has a shorter antecedent.
structure LeastOf (d : Division) (s : List Char) : Prop where
  of         : d.Of s
  leftmost   : ∀ d' : Division, d'.Of s → d.before.length ≤ d'.before.length
  shortest   : ∀ d' : Division, d'.Of s → d'.before.length = d.before.length →
    d.antecedent.length ≤ d'.antecedent.length

variable {d : Division}

theorem Of.text_eq (h : d.Of s) :
    s = d.before ++ 's' :: 'i' :: ' ' ::
      (d.antecedent ++ (d.gap ++ "entonces".toList ++ d.rest)) := by
  rw [h.text]
  simp

-- The word "entonces" begins where the gap before it, or else the antecedent, does not end in a
-- word.
theorem begins_iff (hv : Gap v) :
    (∀ c ∈ (a ++ v).getLast?, isWordChar c = false) ↔
      (v = [] → startsInWord a.reverse = false) := by
  by_cases hn : v = []
  case pos => simp [hn, startsInWord_reverse_eq_false_iff]
  case neg =>
    rw [List.getLast?_append_of_ne_nil _ hn]
    exact iff_of_true (fun c hc => hv.not_isWordChar (List.mem_of_getLast? hc)) (absurd · hn)

theorem Of.consequent?_rest (h : d.Of s) (hr : SingleSpaced d.rest) :
    consequent? d.rest ≠ none := by
  obtain ⟨c, t, hc⟩ := List.exists_cons_of_ne_nil h.consequent.1
  have hm : c ∈ d.consequent := by simp [hc]
  refine (consequent?_ne_none_iff hr).mpr
    ⟨d.gap', c, t ++ d.after, h.gaps.2, by simp [rest, hc], ?_⟩
  exact ⟨ne_of_mem_of_not_mem hm h.consequent.2.1, ne_of_mem_of_not_mem hm h.consequent.2.2⟩

-- A division of a sentence is found where its antecedent ends.
theorem Of.antecedentAt (h : d.Of s) (hs : SingleSpaced s) :
    ∃ c p, d.antecedent = c :: p ∧ isBlank c = false ∧ c ≠ ',' ∧
      antecedentAt [c] p (d.gap ++ "entonces".toList ++ d.rest) ≠ none := by
  obtain ⟨c, p, hc⟩ := List.exists_cons_of_ne_nil h.antecedent.1
  have ht := h.text_eq
  rw [hc] at ht
  have hsp : SingleSpaced (' ' :: c :: (p ++ (d.gap ++ "entonces".toList ++ d.rest))) :=
    hs.mono ⟨d.before ++ ['s', 'i'], [], by simp [ht]⟩
  have hn := h.antecedent.2
  rw [hc, List.mem_cons, not_or] at hn
  refine ⟨c, p, hc, hsp.head c rfl, Ne.symm hn.1, ?_⟩
  have hst : SingleSpaced (d.gap ++ "entonces".toList ++ d.rest) :=
    hsp.mono ⟨' ' :: c :: p, [], by simp⟩
  obtain ⟨t, hr⟩ := Option.ne_none_iff_exists'.mp (h.consequent?_rest hst.of_append)
  refine Option.ne_none_iff_exists'.mpr
    ⟨_, (antecedentAt_eq_some_iff hst).mpr ⟨hn.2, rfl, d.gap, d.rest, ⟨h.gaps.1, rfl, ?_, ?_⟩, hr⟩⟩
  · simpa [hc] using (begins_iff h.gaps.1).mp h.begins
  · exact startsInWord_eq_false_iff.mpr h.ends

-- A division of a sentence is found where it has its "si".
theorem Of.conditionalAt (h : d.Of s) (hs : SingleSpaced s) :
    conditionalAt [] d.before ('s' :: 'i' :: ' ' ::
      (d.antecedent ++ (d.gap ++ "entonces".toList ++ d.rest))) ≠ none := by
  obtain ⟨c, p, hc, hb, hn, ha⟩ := h.antecedentAt hs
  obtain ⟨parts, he⟩ := Option.ne_none_iff_exists'.mp ((search_extend? [c] _).ne_none rfl ha)
  have hsp : SingleSpaced (' ' :: (d.antecedent ++ (d.gap ++ "entonces".toList ++ d.rest))) :=
    hs.mono ⟨d.before ++ ['s', 'i'], [], by simp [h.text_eq]⟩
  refine Option.ne_none_iff_exists'.mpr ⟨parts, conditionalAt_eq_some_iff.mpr ⟨_, rfl, ?_, ?_⟩⟩
  · simpa [startsInWord_reverse_eq_false_iff] using h.si
  · exact (afterSi?_eq_some_iff hsp).mpr ⟨c, _, by rw [hc, List.cons_append], hb, hn, he⟩

end Division

-- What is found gives a division.
theorem exists_division (ht : s = u ++ 's' :: 'i' :: ' ' :: (c :: p ++ t))
    (hs : SingleSpaced s) (hu : startsInWord u.reverse = false) (hc : c ≠ ',')
    (h : antecedentAt [c] p t = some (a, w)) :
    ∃ d : Division, d.Of s ∧ d.before = u ∧ d.antecedent = c :: p ∧
      a = trim d.antecedent ∧ consequent? d.rest = some w := by
  have hst : SingleSpaced t := hs.mono ⟨u ++ 's' :: 'i' :: ' ' :: c :: p, [], by simp [ht]⟩
  obtain ⟨hp, ha, v, r, hv, hr⟩ := (antecedentAt_eq_some_iff hst).mp h
  have hsr : SingleSpaced r := hst.mono ⟨v ++ "entonces".toList, [], by simp [hv.text]⟩
  obtain ⟨g, e, z, hg, hrg, hne⟩ :=
    (consequent?_ne_none_iff hsr).mp (Option.ne_none_iff_exists'.mpr ⟨_, hr⟩)
  have hrest : g ++ [e] ++ z = r := by simp [hrg]
  refine ⟨⟨u, c :: p, v, g, [e], z⟩, ?_, rfl, rfl, ha, by rw [Division.rest, hrest, hr]⟩
  exact {
    text       := by simp [Division.rest, ht, hv.text, hrg]
    si         := startsInWord_reverse_eq_false_iff.mp hu
    begins     := (Division.begins_iff hv.gap).mpr (by simpa using hv.begins)
    ends       := startsInWord_eq_false_iff.mp (by rw [Division.rest, hrest]; exact hv.ends)
    antecedent := ⟨by simp, by simp [hp, Ne.symm hc]⟩
    gaps       := ⟨hv.gap, hg⟩
    consequent := ⟨by simp, by simp [Ne.symm hne.1], by simp [Ne.symm hne.2]⟩
  }

theorem exists_leastOf (h : SingleSpaced s) (hc : conditional? s = some (a, w)) :
    ∃ d : Division, d.LeastOf s ∧ a = trim d.antecedent ∧
      (∃ c ∈ d.antecedent, isBlank c = false) ∧ consequent? d.rest = some w := by
  have hu : Search (conditionalAt []) s (some (a, w)) := hc ▸ search_conditionalFrom? [] s
  obtain ⟨rfl, hu, hleft⟩ | _ := hu
  case found u t =>
  obtain ⟨r, rfl, hword, hr⟩ := conditionalAt_eq_some_iff.mp hu
  have hsr : SingleSpaced r := h.mono ⟨u ++ ['s', 'i'], [], by simp⟩
  obtain ⟨c, r, rfl, hb, hn, hr⟩ := (afterSi?_eq_some_iff hsr).mp hr
  have hp : Search (antecedentAt [c]) r (some (a, w)) := hr ▸ search_extend? [c] r
  obtain ⟨rfl, hp, hshort⟩ | _ := hp
  case found p t =>
  obtain ⟨d, hd, rfl, hda, rfl, hw⟩ := exists_division rfl h (by simpa using hword) hn hp
  refine ⟨d, ⟨hd, fun d' hd' => ?_, fun d' hd' hl => ?_⟩, rfl, ⟨c, by simp [hda], hb⟩, hw⟩
  case refine_1 => exact hleft _ _ hd'.text_eq.symm (hd'.conditionalAt h)
  case refine_2 =>
    have ht := (List.append_inj hd'.text_eq.symm hl).2
    obtain ⟨c', p', hda', -, -, hp'⟩ := hd'.antecedentAt h
    simp only [hda', List.cons_append, List.cons.injEq, true_and] at ht
    obtain ⟨rfl, hpt⟩ := ht
    rw [hda, hda']
    exact Nat.succ_le_succ (hshort _ _ hpt hp')

theorem conditional?_ne_none_iff (h : SingleSpaced s) :
    conditional? s ≠ none ↔ ∃ d : Division, d.Of s := by
  constructor
  case mp =>
    intro hc
    obtain ⟨parts, hc⟩ := Option.ne_none_iff_exists'.mp hc
    obtain ⟨d, hd, -⟩ := exists_leastOf h hc
    exact ⟨d, hd.of⟩
  case mpr =>
    rintro ⟨d, hd⟩
    exact (search_conditionalFrom? [] s).ne_none hd.text_eq.symm (hd.conditionalAt h)

end Divisions

-- In every sentence with single spaces, as those of a text in its normal form are, the leftmost
-- "si" and the shortest antecedent are found, if there are any.
theorem conditional_leftmost_shortest :
    (∀ t, ∀ s ∈ sentences (normalize t), SingleSpaced s) ∧
    ∀ s, SingleSpaced s →
      (conditional? s ≠ none ↔ ∃ d : Division, d.Of s) ∧
      ∀ antecedent consequent, conditional? s = some (antecedent, consequent) →
        ∃ d : Division, d.LeastOf s ∧
          antecedent = trim d.antecedent ∧ antecedent ≠ [] ∧ ',' ∉ antecedent ∧
          ',' ∉ consequent ∧ '.' ∉ consequent ∧
          ∀ g c r, d.rest = g ++ c :: r → Gap g → isBlank c = false → c ≠ ',' → c ≠ '.' →
            consequent = trim (phrase (c :: r)) := by
  refine ⟨fun t s => singleSpaced_of_mem_sentences, fun s h => ⟨conditional?_ne_none_iff h, ?_⟩⟩
  intro antecedent consequent hc
  obtain ⟨d, hd, rfl, ⟨c, hc, hb⟩, hr⟩ := exists_leastOf h hc
  have ⟨hcomma, hperiod⟩ := plain_of_consequent? hr
  refine ⟨d, hd, rfl, trim_ne_nil hc hb, fun hm => hd.of.antecedent.2 (mem_of_mem_trim hm), hcomma,
    hperiod, fun g c r hg hgap hb hc hp => ?_⟩
  rw [hg, consequent?_append hgap hb hc hp] at hr
  exact (Option.some.inj hr).symm

-- Neither the end of "casi" nor a "si" with a comma in the way is continued.
theorem conditional_leftmost_shortest_after_comma :
    let s := "casi, si a, b entonces no. si llueve , entonces, nieva, o no".toList
    SingleSpaced s ∧ conditional? s = some ("llueve".toList, "nieva".toList) ∧
      ∃ d : Division, d.LeastOf s ∧ trim d.antecedent = "llueve".toList := by
  intro s
  have h : SingleSpaced s := by decide +kernel
  have hc : conditional? s = some ("llueve".toList, "nieva".toList) := by decide +kernel
  obtain ⟨d, hd, ha, -⟩ := (conditional_leftmost_shortest.2 s h).2 _ _ hc
  exact ⟨h, hc, d, hd, ha.symm⟩

end Enunciado.Prose

import Mathlib.Data.List.Basic
import Enunciado.Proofs.Prose.Clause
import Enunciado.Proofs.Text.Blank

namespace Enunciado.Prose

open Text

variable {w c : Char} {u s t : List Char} {parts : List (List Char)}

section Step

-- What follows the word `w` and its blanks, if only blanks come before it.
def afterBlankWord? (w : Char) (s : List Char) : Option (List Char) :=
  match s.dropWhile isBlank with
  | c :: d :: r => if c = w && isBlank d then some (r.dropWhile isBlank) else none
  | _ => none

theorem afterWord?_map_val (w : Char) (s : List Char) :
    (splitAtWord.afterWord? w s).map (·.val) = afterBlankWord? w s := by
  unfold splitAtWord.afterWord? afterBlankWord?
  split
  case h_1 c d r hs => simp only [hs]; split <;> rfl
  case h_2 hs => split <;> simp_all

theorem extendFirst_eq (h : parts ≠ []) :
    splitAtWord.extendFirst c parts = parts.modifyHead (c :: ·) := by
  cases parts
  case nil => contradiction
  case cons => rfl

theorem splitAtWord_cons_of_not_blank (hc : isBlank c = false) (w : Char) (s : List Char) :
    splitAtWord w (c :: s) = (splitAtWord w s).modifyHead (c :: ·) := by
  rw [splitAtWord, if_neg (by simp [hc]), extendFirst_eq (splitAtWord_ne_nil w s)]

theorem splitAtWord_cons_of_none (h : afterBlankWord? w s = none) (c : Char) :
    splitAtWord w (c :: s) = (splitAtWord w s).modifyHead (c :: ·) := by
  rw [← afterWord?_map_val, Option.map_eq_none_iff] at h
  rw [splitAtWord, h, extendFirst_eq (splitAtWord_ne_nil w s), ite_self]

theorem splitAtWord_cons_of_some (hc : isBlank c) (h : afterBlankWord? w s = some t) :
    splitAtWord w (c :: s) = [] :: splitAtWord w t := by
  rw [← afterWord?_map_val, Option.map_eq_some_iff] at h
  obtain ⟨⟨t, ht⟩, h, rfl⟩ := h
  rw [splitAtWord, if_pos hc, h]

end Step

section Worded

-- Characters without blanks.
structure Solid (s : List Char) : Prop where
  ne_nil    : s ≠ []
  not_blank : ∀ c ∈ s, isBlank c = false

instance (s : List Char) : Decidable (Solid s) :=
  decidable_of_iff (s ≠ [] ∧ s.all (!isBlank ·))
    ⟨fun ⟨hn, hb⟩ => ⟨hn, by simpa using hb⟩, fun h => ⟨h.ne_nil, by simpa using h.not_blank⟩⟩

-- `Worded w s` says that the text `s` has single spaces between its words, none of which is `w`.
inductive Worded (w : Char) : List Char → Prop
  | word {u : List Char} : Solid u → u ≠ [w] → Worded w u
  | cons {u s : List Char} : Solid u → u ≠ [w] → Worded w s → Worded w (u ++ ' ' :: s)

theorem Solid.head (h : Solid u) : ∀ c ∈ (u ++ s).head?, isBlank c = false := by
  cases u
  case nil => exact absurd rfl h.ne_nil
  case cons c u => simpa using h.not_blank c (by simp)

theorem Solid.getLast (h : Solid u) : ∀ c ∈ (s ++ u).getLast?, isBlank c = false := by
  rw [List.getLast?_append_of_ne_nil _ h.ne_nil]
  exact fun c hc => h.not_blank c (List.mem_of_getLast? hc)

theorem splitAtWord_solid_append (h : ∀ c ∈ u, isBlank c = false) (w : Char) (s : List Char) :
    splitAtWord w (u ++ s) = (splitAtWord w s).modifyHead (u ++ ·) := by
  induction u
  case nil => exact (congrFun List.modifyHead_id _).symm
  case cons c u hi =>
    have ⟨hc, hu⟩ := List.forall_mem_cons.mp h
    rw [List.cons_append, splitAtWord_cons_of_not_blank hc, hi hu, List.modifyHead_modifyHead]
    rfl

theorem Solid.afterBlankWord? (h : Solid u) (hw : u ≠ [w]) (s : List Char) :
    afterBlankWord? w (u ++ s) = none := by
  rw [Prose.afterBlankWord?, dropWhile_isBlank h.head]
  match u with
  | [] => exact absurd rfl h.ne_nil
  | [c] =>
    have hc : c ≠ w := by simpa using hw
    cases s <;> simp [hc]
  | c :: d :: u =>
    have hd : isBlank d = false := h.not_blank d (by simp)
    simp [hd]

namespace Worded

theorem head (h : Worded w s) : ∀ c ∈ (s ++ t).head?, isBlank c = false := by
  cases h
  case word hu _ => exact hu.head
  case cons hu _ _ =>
    rw [List.append_assoc]
    exact hu.head

theorem ne_nil (h : Worded w s) : s ≠ [] := by
  cases h
  case word hu _ => exact hu.ne_nil
  case cons => simp

theorem getLast (h : Worded w s) : ∀ c ∈ (t ++ s).getLast?, isBlank c = false := by
  induction h generalizing t
  case word hu _ => exact hu.getLast
  case cons u s _ _ _ hi =>
    have hs : t ++ (u ++ ' ' :: s) = t ++ u ++ [' '] ++ s := by simp
    rw [hs]
    exact hi

theorem trim_eq (h : Worded w s) : trim s = s :=
  trim_eq_self (by simpa using h.head (t := [])) (by simpa using h.getLast (t := []))

theorem append (hs : Worded w s) (ht : Worded w t) : Worded w (s ++ ' ' :: t) := by
  induction hs
  case word hu hn => exact .cons hu hn ht
  case cons hu hn _ hi =>
    rw [List.append_assoc, List.cons_append]
    exact .cons hu hn hi

theorem joinWith {separator : List Char} (hp : parts ≠ [])
    (hj : ∀ {s t}, Worded w s → Worded w t → Worded w (s ++ separator ++ t))
    (h : ∀ s ∈ parts, Worded w s) : Worded w (joinWith separator parts) := by
  induction parts
  case nil => contradiction
  case cons s parts hi =>
    cases parts
    case nil => exact h s (by simp)
    case cons t parts => exact hj (h s (by simp)) (hi (by simp) fun s hs => h s (by simp [hs]))

-- Words that are joined by another word have it among them.
theorem joinWith_word (hu : Solid u) (hw : u ≠ [w]) (hp : parts ≠ [])
    (h : ∀ s ∈ parts, Worded w s) :
    Worded w (Enunciado.joinWith (' ' :: u ++ [' ']) parts) := by
  refine joinWith hp (fun {s t} hs ht => ?_) h
  have hj := hs.append (.cons hu hw ht)
  simpa using hj

theorem afterBlankWord? (h : Worded w s) (t : List Char) : afterBlankWord? w (s ++ t) = none := by
  cases h
  case word hu hn => exact hu.afterBlankWord? hn t
  case cons hu hn _ =>
    rw [List.append_assoc]
    exact hu.afterBlankWord? hn _

theorem splitAtWord_append (h : Worded w s) (t : List Char) :
    splitAtWord w (s ++ t) = (splitAtWord w t).modifyHead (s ++ ·) := by
  induction h
  case word hu _ => exact splitAtWord_solid_append hu.not_blank w t
  case cons hu _ hs hi =>
    rw [List.append_assoc, List.cons_append, splitAtWord_solid_append hu.not_blank,
      splitAtWord_cons_of_none (hs.afterBlankWord? t), hi, List.modifyHead_modifyHead,
      List.modifyHead_modifyHead]
    simp [Function.comp_def]

end Worded

theorem splitAtWord_connective (hw : isBlank w = false) (hs : ∀ c ∈ s.head?, isBlank c = false) :
    splitAtWord w (' ' :: w :: ' ' :: s) = [] :: splitAtWord w s := by
  refine splitAtWord_cons_of_some rfl ?_
  rw [afterBlankWord?, dropWhile_isBlank (by simpa using hw)]
  simp [dropWhile_isBlank hs, show isBlank ' ' = true by decide]

-- What comes after the first part is nothing, or begins with the space of the separator.
theorem exists_joinWith_cons (separator : List Char) (parts : List (List Char)) :
    ∃ t, (∀ c ∈ t.head?, c = ' ') ∧ ∀ s, joinWith (' ' :: separator) (s :: parts) = s ++ t := by
  cases parts
  case nil => exact ⟨[], nofun, fun s => (List.append_nil s).symm⟩
  case cons => exact ⟨_, by simp, fun s => List.append_assoc _ _ _⟩

-- Parts without the word are got back.
theorem splitAtWord_joinWith (hw : isBlank w = false) (hp : parts ≠ [])
    (h : ∀ s ∈ parts, Worded w s) : splitAtWord w (joinWith [' ', w, ' '] parts) = parts := by
  induction parts
  case nil => contradiction
  case cons s parts hi =>
    have hs := h s (by simp)
    cases parts
    case nil => simpa [joinWith, splitAtWord] using hs.splitAtWord_append []
    case cons t parts =>
      have hj : joinWith [' ', w, ' '] (s :: t :: parts) =
          s ++ (' ' :: w :: ' ' :: joinWith [' ', w, ' '] (t :: parts)) := by
        simp [joinWith]
      have ht : ∀ c ∈ (joinWith [' ', w, ' '] (t :: parts)).head?, isBlank c = false := by
        obtain ⟨r, _, hj⟩ := exists_joinWith_cons [w, ' '] parts
        rw [hj]
        exact (h t (by simp)).head
      rw [hj, hs.splitAtWord_append, splitAtWord_connective hw ht,
        hi (by simp) fun s hs => h s (by simp [hs]), List.modifyHead_cons, List.append_nil]

end Worded

section First

theorem splitAtWord_blanks_append (hs : ∀ c ∈ s, isBlank c) (h : afterBlankWord? w t = none) :
    splitAtWord w (s ++ t) = (splitAtWord w t).modifyHead (s ++ ·) := by
  induction s
  case nil => exact (congrFun List.modifyHead_id _).symm
  case cons c s hi =>
    have ⟨_, hs⟩ := List.forall_mem_cons.mp hs
    have hn : afterBlankWord? w (s ++ t) = none := by
      rwa [afterBlankWord?, List.dropWhile_append_of_pos hs]
    rw [List.cons_append, splitAtWord_cons_of_none hn, hi hs, List.modifyHead_modifyHead]
    rfl

-- The first part is the beginning of the text.
theorem exists_splitAtWord (w : Char) (s : List Char) :
    ∃ t parts, splitAtWord w s = t :: parts ∧ t <+: s := by
  induction s
  case nil => exact ⟨[], [], by rw [splitAtWord], List.prefix_rfl⟩
  case cons c s hi =>
    obtain ⟨t, parts, hs, ht⟩ := hi
    cases hc : isBlank c
    case false =>
      rw [splitAtWord_cons_of_not_blank hc, hs]
      exact ⟨c :: t, parts, rfl, (List.prefix_cons_inj c).mpr ht⟩
    case true =>
      cases hw : afterBlankWord? w s
      case none =>
        rw [splitAtWord_cons_of_none hw, hs]
        exact ⟨c :: t, parts, rfl, (List.prefix_cons_inj c).mpr ht⟩
      case some r => exact ⟨[], _, splitAtWord_cons_of_some hc hw, List.nil_prefix⟩

end First

section Negation

-- A text with "no " before it.
def denied (s : List Char) : List Char :=
  'n' :: 'o' :: ' ' :: s

theorem solid_no : Solid ['n', 'o'] := by
  decide +kernel

theorem trim_denied (h : trim s ≠ []) :
    ∃ t, trim (denied s) = denied t ∧ trim t = trim s := by
  have ⟨before, after, hs, hb, ha⟩ := exists_blanks s
  refine ⟨before ++ trim s, ?_, by rw [trim_append_left hb, trim_trim]⟩
  have hd : denied s = denied (before ++ trim s) ++ after := congrArg denied hs
  rw [hd, trim_append_right ha]
  refine trim_eq_self (fun c hc => ?_) ?_
  · cases hc
    decide
  · have hl : denied (before ++ trim s) = denied before ++ trim s := rfl
    rw [hl, List.getLast?_append_of_ne_nil _ h]
    exact getLast_trim s

-- One "no " is taken, whatever comes after it.
theorem stripNegation_denied (h : trim s ≠ []) : stripNegation (denied s) = (true, trim s) := by
  have ⟨t, hd, ht⟩ := trim_denied h
  rw [stripNegation, hd, ← ht]
  rfl

-- Of a text without blanks around it, something is left after "no " and its blanks.
theorem exists_blanks_of_trim_denied (h : trim (denied s) = denied s) :
    ∃ before, s = before ++ trim s ∧ (∀ c ∈ before, isBlank c) ∧ trim s ≠ [] := by
  have ⟨before, after, hs, hb, ha⟩ := exists_blanks s
  have hd : denied s = denied (before ++ trim s) ++ after := congrArg denied hs
  rw [hd] at h
  cases eq_nil_of_trim h ha
  refine ⟨before, by simpa using hs, hb, fun hn => ?_⟩
  have hno : denied (before ++ trim s) ++ [] = ['n', 'o'] ++ ' ' :: before := by
    rw [hn, List.append_nil, List.append_nil]
    rfl
  rw [hno] at h
  cases eq_nil_of_trim h (List.forall_mem_cons.mpr ⟨rfl, hb⟩)

theorem stripNegation_of_ne_denied (h : ∀ t, trim s ≠ denied t) :
    stripNegation s = (false, trim s) := by
  unfold stripNegation
  split
  case h_1 r hr => exact absurd hr (h r)
  case h_2 => rfl

end Negation

end Enunciado.Prose

import Enunciado.Proofs.Formula.Beginning
import Enunciado.Proofs.Formula.RoundTrip

namespace Enunciado

namespace Formula

variable {m n : Nat} {A : Phrase} {l : Lexeme} {us vs : List Lexeme} {x : Formula String}

namespace Place

variable {p q : Place} {marks : List Mark}

-- How many parentheses and negations are open at the place.
def level (p : Place) : Nat :=
  p.opened.length

-- The highest level of the places that the lexemes lead through.
def peak (p : Place) : List Lexeme → Nat
  | [] => p.level
  | l :: ls => match p.next? l with
    | some q => max p.level (q.peak ls)
    | none => p.level

theorem peak_nil (p : Place) : p.peak [] = p.level :=
  rfl

theorem peak_cons (h : p.next? l = some q) : p.peak (l :: us) = max p.level (q.peak us) := by
  rw [peak, h]

theorem level_le_peak (p : Place) (us : List Lexeme) : p.level ≤ p.peak us := by
  unfold peak
  split
  case h_1 => exact Nat.le_refl _
  case h_2 =>
    split
    · exact Nat.le_max_left ..
    · exact Nat.le_refl _

theorem peak_append (h : p.reach? us = some q) :
    p.peak (us ++ vs) = max (p.peak us) (q.peak vs) := by
  induction us generalizing p
  case nil =>
    cases h
    exact (Nat.max_eq_right (level_le_peak _ vs)).symm
  case cons l us hi =>
    rw [reach?_cons, Option.bind_eq_some_iff] at h
    obtain ⟨p', hn, hr⟩ := h
    rw [List.cons_append, peak_cons hn, peak_cons hn, hi hr, Nat.max_assoc]

theorem level_afterOperand_le (marks : List Mark) : (afterOperand marks).level ≤ marks.length :=
  (List.dropWhile_sublist _).length_le

-- An operand of one lexeme opens nothing.
theorem peak_operand (h : next? ⟨marks, false⟩ l = some (afterOperand marks)) :
    peak ⟨marks, false⟩ [l] = marks.length := by
  rw [peak_cons h, peak_nil]
  exact Nat.max_eq_left (level_afterOperand_le marks)

theorem peak_denial (marks : List Mark) (us : List Lexeme) :
    peak ⟨marks, false⟩ (.operator .not :: us) = peak ⟨.negation :: marks, false⟩ us := by
  have hd := level_le_peak ⟨.negation :: marks, false⟩ us
  rw [peak_cons (q := ⟨.negation :: marks, false⟩) rfl]
  exact Nat.max_eq_right (Nat.le_trans (Nat.le_succ _) hd)

-- Where something has been opened on top of `marks`, the limit is not zero.
theorem exists_of_peak_le {mark : Mark}
    (h : peak ⟨mark :: marks, false⟩ us ≤ marks.length + m) :
    ∃ k, m = k + 1 ∧ peak ⟨mark :: marks, false⟩ us ≤ (mark :: marks).length + k := by
  have hl : marks.length + 1 ≤ _ := level_le_peak ⟨mark :: marks, false⟩ us
  refine ⟨m - 1, by omega, ?_⟩
  rw [List.length_cons]
  omega

end Place

open Place

namespace Derives

theorem peak_group (h : Derives n .expression us x) (marks : List Mark) :
    peak ⟨marks, false⟩ (.opening :: us ++ [.closing]) =
      peak ⟨.parenthesis :: marks, false⟩ us := by
  have hu := level_le_peak ⟨.parenthesis :: marks, false⟩ us
  have ho : next? ⟨marks, false⟩ .opening = some ⟨.parenthesis :: marks, false⟩ := rfl
  have hc : next? (afterOperand (.parenthesis :: marks)) .closing = some (afterOperand marks) := rfl
  have hd : (afterOperand (.parenthesis :: marks)).level = marks.length + 1 := rfl
  have ha := level_afterOperand_le marks
  rw [List.cons_append, peak_cons ho, peak_append (h.reach? _), peak_cons hc, peak_nil, hd]
  simp only [level, List.length_cons] at hu ha ⊢
  omega

theorem peak_append (hx : Derives n A us x) (hop : op ≠ .not) (marks : List Mark)
    (vs : List Lexeme) :
    peak ⟨marks, false⟩ (us ++ .operator op :: vs) =
      max (peak ⟨marks, false⟩ us) (peak ⟨(afterOperand marks).opened, false⟩ vs) := by
  have hn := next?_connective hop (afterOperand marks).opened
  have hd := level_le_peak ⟨(afterOperand marks).opened, false⟩ vs
  rw [Place.peak_append (hx.reach? marks), peak_cons (p := afterOperand marks) hn]
  exact congrArg _ (Nat.max_eq_right hd)

-- A phrase opens no more than its limit on top of what is open before it.
theorem peak_le (h : Derives n A us x) (marks : List Mark) :
    peak ⟨marks, false⟩ us ≤ marks.length + n := by
  induction h using Derives.stepwise generalizing marks
  case operand hi => exact hi marks
  case append hA hx _ hix hiy =>
    rw [hx.peak_append (Phrase.chain?_ne_not hA)]
    have ha := level_afterOperand_le marks
    have hy := hiy (afterOperand marks).opened
    exact Nat.max_le.mpr ⟨hix marks, Nat.le_trans hy (Nat.add_le_add_right ha _)⟩
  case denial n _ _ _ hi =>
    have hp : _ ≤ marks.length + 1 + n := hi (.negation :: marks)
    rw [peak_denial]
    omega
  case primary hi => exact hi marks
  case group n _ _ h hi =>
    have hp : _ ≤ marks.length + 1 + n := hi (.parenthesis :: marks)
    rw [h.peak_group]
    omega
  case constant b =>
    have hn : next? ⟨marks, false⟩ (.constant b) = some (afterOperand marks) := rfl
    exact peak_operand hn ▸ Nat.le_add_right ..
  case letter chars hc =>
    have hn : next? ⟨marks, false⟩ (.name chars) = some (afterOperand marks) := if_pos hc
    exact peak_operand hn ▸ Nat.le_add_right ..

-- What is opened is all that the limit is for. In a chain an operand must not end what is open
-- before it, as the negations right before a phrase would be.
theorem of_peak_le (h : Derives n A us x) {marks : List Mark}
    (hs : ∀ p, A.chain? = some p → Settled marks)
    (hp : peak ⟨marks, false⟩ us ≤ marks.length + m) : Derives m A us x := by
  induction h using Derives.stepwise generalizing m marks
  case operand hA _ hi => exact .operand hA (hi (fun _ _ => hs _ hA) hp)
  case append hA hx _ hix hiy =>
    have hm := hs _ hA
    rw [hx.peak_append (Phrase.chain?_ne_not hA), hm.afterOperand, Nat.max_le] at hp
    exact .append hA (hix hs hp.1) (hiy (fun _ _ => hm) hp.2)
  case denial hi =>
    rw [peak_denial] at hp
    obtain ⟨k, rfl, hk⟩ := exists_of_peak_le hp
    exact .denial (hi nofun hk)
  case primary hi => exact .primary (hi nofun hp)
  case group h hi =>
    rw [h.peak_group] at hp
    obtain ⟨k, rfl, hk⟩ := exists_of_peak_le hp
    exact .group (hi (fun _ _ => settled_parenthesis marks) hk)
  case constant => exact .constant
  case letter hc => exact .letter hc

end Derives

end Formula

namespace Token

open Formula Place

variable {n : Nat} {s : List Char} {x : Formula String}

-- How deep parentheses and negations are nested in the expression.
def nesting (s : List Char) : Nat :=
  start.peak (lexemes s)

theorem nesting_le_of_derives (h : Derives n .expression (lexemes s) x) : nesting s ≤ n := by
  have hp := h.peak_le []
  rwa [List.length_nil, Nat.zero_add] at hp

theorem derives_nesting (h : Derives n .expression (lexemes s) x) :
    Derives (nesting s) .expression (lexemes s) x :=
  h.of_peak_le (fun _ _ => settled_nil) (Nat.le_add_left ..)

theorem derives_nesting_of_parse {e : String} (h : parse e = .ok x) :
    Derives (nesting e.toList) .expression (lexemes e.toList) x :=
  derives_nesting (derives_of_parse h).1

theorem nesting_toExpression (h : Readable x) : nesting x.toExpression.toList = x.nesting := by
  refine Nat.le_antisymm ?_ ?_
  case refine_1 =>
    have hd := derives_render h.proper h.lettered (Nat.le_refl _)
    rw [toExpression, String.toList_ofList]
    exact nesting_le_of_derives (hd.loosen Phrase.precedence_pos)
  case refine_2 =>
    have hn := (derives_nesting_of_parse h.parse_toExpression).nestingAs_le
    rwa [nestingAs_expression] at hn

end Token

end Enunciado

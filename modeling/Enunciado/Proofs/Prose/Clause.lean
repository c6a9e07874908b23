import Enunciado.Proofs.Formula.Parsing
import Enunciado.Proofs.Traversal
import Enunciado.Prose.Clause

namespace Enunciado.Prose

open Formula Token

section Reading

variable {σ : Type} {ps : List (Proposition σ String)} {p : Proposition σ String}

theorem splitAtWord_ne_nil (w : Char) (s : List Char) : splitAtWord w s ≠ [] := by
  have he (c parts) : splitAtWord.extendFirst c parts ≠ [] := by
    cases parts <;> simp [splitAtWord.extendFirst]
  unfold splitAtWord
  split
  case h_1 => simp
  case h_2 =>
    split
    case isTrue => split <;> simp [he]
    case isFalse => exact he _ _

theorem firstBest_mem {score : α → Magnitude} (h : (firstBest score best xs).1 = some x) :
    best.1 = some x ∨ x ∈ xs := by
  induction xs generalizing best
  case nil => exact .inl h
  case cons y xs hi =>
    rw [firstBest] at h
    cases hi h
    case inl h =>
      split at h
      case isTrue =>
        cases h
        exact .inr (by simp)
      case isFalse => exact .inl h
    case inr h => exact .inr (by simp [h])

theorem bestMatch_mem (h : bestMatch ps s = some p) : p ∈ ps := by
  unfold bestMatch at h
  extract_lets ws at h
  split at h
  case h_1 best score hb =>
    rw [Option.ite_none_right_eq_some] at h
    have hm := firstBest_mem (congrArg Prod.fst hb |>.trans h.2)
    simpa using hm

theorem readLiteral_symbol_mem (h : readLiteral ps s = .ok l) : l.symbol ∈ ps.map (·.symbol) := by
  unfold readLiteral at h
  split at h
  split at h
  case h_1 p hp =>
    cases h
    exact List.mem_map.mpr ⟨p, bestMatch_mem hp, rfl⟩
  case h_2 => cases h

-- A clause over the symbols. Nothing in it is left empty.
structure Clause.Over (symbols : List σ) (c : Clause σ) : Prop where
  conjuncts_ne_nil : c.conjuncts ≠ []
  disjuncts_ne_nil : ∀ d ∈ c.conjuncts, d ≠ []
  symbol_mem       : ∀ d ∈ c.conjuncts, ∀ l ∈ d, l.symbol ∈ symbols

theorem readClause_over (h : readClause ps s = .ok c) : c.Over (ps.map (·.symbol)) := by
  have ⟨conjuncts, hc, h⟩ := bind_eq_ok_iff.mp h
  cases h
  exact {
    conjuncts_ne_nil := ne_nil_of_mapM hc (splitAtWord_ne_nil _ _)
    disjuncts_ne_nil := fun d hd => by
      have ⟨part, _, hp⟩ := exists_of_mem_mapM hc d hd
      exact ne_nil_of_mapM hp (splitAtWord_ne_nil _ _)
    symbol_mem := fun d hd l hl => by
      have ⟨part, _, hp⟩ := exists_of_mem_mapM hc d hd
      have ⟨term, _, ht⟩ := exists_of_mem_mapM hp l hl
      exact readLiteral_symbol_mem ht
  }

end Reading

section Rendering

variable {op : Operator} {n : Nat} {A B : Phrase} {as : List α} {text : α → List Char}
  {formula : α → Formula String}

theorem lexemes_joinWith (op : Operator) (s : List Char) (parts : List (List Char)) :
    lexemes (joinWith [' ', op.glyph, ' '] (s :: parts)) =
      lexemes s ++ parts.flatMap fun t => .operator op :: lexemes t := by
  induction parts generalizing s
  case nil => simp [joinWith]
  case cons t parts hi =>
    have h : joinWith [' ', op.glyph, ' '] (s :: t :: parts) =
        s ++ [' ', op.glyph, ' '] ++ joinWith [' ', op.glyph, ' '] (t :: parts) := rfl
    rw [h, lexemes_joined, hi, List.flatMap_cons, List.cons_append]

-- Expressions that an operator joins are a chain of it, and their formula is folded to the left.
theorem derives_joinWith (hA : A.chain? = some (op, B)) (ha : as ≠ [])
    (h : ∀ a ∈ as, Derives n B (lexemes (text a)) (formula a)) :
    Derives n A (lexemes (joinWith [' ', op.glyph, ' '] (as.map text)))
      (foldLeft op (as.map formula)) := by
  cases as
  case nil => contradiction
  case cons a as =>
    let operand (a : α) : Operand := (lexemes (text a), formula a)
    have ho : ∀ p ∈ operand a :: as.map operand, Derives n B p.1 p.2 := by simpa using h
    have hj := Derives.join hA ho
    simpa [lexemes_joinWith, foldLeft, Operand.join, List.flatMap_map, List.foldl_map] using hj

theorem derives_parenthesized (h : Derives n .expression (lexemes s) x) :
    Derives (n + 1) .negation (lexemes ('(' :: s ++ [')'])) x := by
  rw [lexemes_parenthesized]
  exact .primary (.group h)

-- Two parts or more stand in parentheses, so a chain is denied and joined like a single part.
theorem derives_chain (hop : op ≠ .not) (ha : as ≠ [])
    (h : ∀ a ∈ as, Derives n .negation (lexemes (text a)) (formula a)) :
    Derives (n + 1) .negation (lexemes (chain op (as.map text)))
      (foldLeft op (as.map formula)) := by
  match as with
  | [a] => exact (h a (by simp)).mono (by omega)
  | a :: b :: as =>
    have ⟨A, B, hA⟩ := Phrase.exists_chain? hop
    have hj := derives_joinWith hA ha fun c hc => (h c hc).loosen (Phrase.chain?_operand_le hA)
    exact derives_parenthesized (hj.loosen Phrase.precedence_pos)

theorem derives_denyIf (h : Derives n .negation (lexemes s) x) :
    Derives (n + 1) .negation (lexemes (denyIf negated s))
      (if negated then .unary .not x else x) := by
  cases negated
  case false => exact h.mono (by omega)
  case true =>
    rw [denyIf, if_pos rfl, lexemes_denied]
    exact .denial h

theorem Literal.derives {l : Literal String} (h : isLetterName l.symbol.toList) :
    Derives 1 .negation (lexemes (l.render String.toList)) l.formula := by
  have hv : Derives 0 .negation (lexemes l.symbol.toList) (.var l.symbol) := by
    rw [lexemes_letter h]
    simpa using Derives.primary (n := 0) (.letter h)
  exact derives_denyIf hv

theorem Clause.Over.derives {c : Clause String} (h : c.Over symbols)
    (hl : ∀ s ∈ symbols, isLetterName s.toList) :
    Derives 4 .negation (lexemes (c.render String.toList)) c.formula := by
  refine derives_denyIf <| derives_chain (by decide) h.conjuncts_ne_nil fun d hd => ?_
  refine derives_chain (by decide) (h.disjuncts_ne_nil d hd) fun l hm => ?_
  exact Literal.derives <| hl _ (h.symbol_mem d hd l hm)

end Rendering

section Characters

-- No biconditional and no constant is among the characters.
def Plain (s : List Char) : Prop :=
  '↔' ∉ s ∧ '⊤' ∉ s ∧ '⊥' ∉ s

namespace Plain

variable {s t : List Char}

theorem append (hs : Plain s) (ht : Plain t) : Plain (s ++ t) := by
  simp_all [Plain]

theorem letter (h : isLetterName s) : Plain s := by
  match s with
  | [c] =>
    have hz : c ≤ 'z' := (by simpa [isLetterName] using h : 'a' ≤ c ∧ c ≤ 'z').2
    simp only [Plain, List.mem_singleton]
    refine ⟨?_, ?_, ?_⟩ <;> (rintro rfl; revert hz; decide)

theorem joinWith {parts : List (List Char)} (hs : Plain s) (h : ∀ t ∈ parts, Plain t) :
    Plain (joinWith s parts) := by
  induction parts
  case nil => simp [Plain, Enunciado.joinWith]
  case cons t parts hi =>
    cases parts
    case nil => exact h t (by simp)
    case cons u parts =>
      have ht : Plain t := h t (by simp)
      exact (ht.append hs).append (hi fun v hv => h v (by simp [hv]))

theorem parenthesized (h : Plain s) : Plain ('(' :: s ++ [')']) := by
  simp_all [Plain]

theorem denyIf (h : Plain s) : Plain (denyIf negated s) := by
  cases negated <;> simp_all [Plain, Prose.denyIf]

theorem chain {parts : List (List Char)} (hop : op ≠ .iff) (h : ∀ t ∈ parts, Plain t) :
    Plain (chain op parts) := by
  have ho : Plain [' ', op.glyph, ' '] := by
    cases op
    case iff => contradiction
    all_goals simp [Plain, Operator.glyph]
  unfold Prose.chain
  split
  case h_1 s => exact h s (by simp)
  case h_2 => exact (ho.joinWith h).parenthesized

end Plain

theorem Clause.Over.plain {c : Clause String} (h : c.Over symbols)
    (hl : ∀ s ∈ symbols, isLetterName s.toList) : Plain (c.render String.toList) := by
  refine .denyIf <| .chain (by decide) <| List.forall_mem_map.mpr fun d hd => ?_
  refine .chain (by decide) <| List.forall_mem_map.mpr fun l hm => ?_
  exact .denyIf <| .letter <| hl _ (h.symbol_mem d hd l hm)

end Characters

end Enunciado.Prose

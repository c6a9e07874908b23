import Enunciado.Proofs.Formula.Parsing

namespace Enunciado

-- The phrase whose operands the connective joins.
def Operator.phrase : Operator → Formula.Phrase
  | iff => .biconditional
  | implies => .implication
  | or => .disjunction
  | and => .conjunction
  | not => .negation

theorem Operator.phrase_precedence (op : Operator) : op.phrase.precedence = op.precedence := by
  cases op <;> rfl

theorem Operator.phrase_of_chain? (h : Formula.Phrase.chain? A = some (op, B)) : op.phrase = A := by
  cases A <;> cases h <;> rfl

theorem Operator.exists_operand (h : op ≠ .not) :
    ∃ B, Formula.Phrase.chain? op.phrase = some (op, B) := by
  cases op
  case not => contradiction
  all_goals exact ⟨_, rfl⟩

namespace Formula

open Token

section Writing

variable {α : Type} {A B : Phrase} {op : Operator} {x y : Formula α} {text : α → List Char}

-- The tightest phrase that the formula is without parentheses around it.
def phrase : Formula α → Phrase
  | var _ | const _ => .primary
  | unary _ _ => .negation
  | binary op _ _ => op.phrase

-- Whether the formula needs parentheses where a phrase `A` is expected.
def needsGroup (A : Phrase) (x : Formula α) : Bool :=
  x.phrase.precedence < A.precedence

-- The number of parentheses that the formula needs there.
def groups (A : Phrase) (x : Formula α) : Nat :=
  if x.needsGroup A then 1 else 0

-- The formula as a phrase `A`.
def renderAs (A : Phrase) (text : α → List Char) (x : Formula α) : List Char :=
  wrapIf (x.needsGroup A) (x.render text)

-- The nesting in the formula as a phrase `A`.
def nestingAs (A : Phrase) (x : Formula α) : Nat :=
  x.nesting + if x.needsGroup A then 1 else 0

theorem wrapsLeft_eq (op : Operator) (x : Formula α) : wrapsLeft op x = x.needsGroup op.phrase := by
  cases x
  case binary op' _ _ =>
    simp [wrapsLeft, needsGroup, outerPrecedence?, phrase, Operator.phrase_precedence]
  all_goals cases op <;> rfl

theorem wrapsRight_eq (h : Phrase.chain? op.phrase = some (op, B)) (x : Formula α) :
    wrapsRight op x = x.needsGroup B := by
  have hB := Phrase.chain?_operand_precedence h
  cases x
  case binary op' _ _ =>
    simp only [wrapsRight, needsGroup, outerPrecedence?, phrase, Operator.phrase_precedence, hB,
      Nat.lt_succ_iff, Option.any_some]
  all_goals cases op <;> cases h <;> rfl

theorem isBinary_eq (h : x.Proper) : x.isBinary = x.needsGroup .negation := by
  cases x
  case binary op _ _ =>
    have hop := h.1
    cases op <;> first | contradiction | rfl
  all_goals rfl

theorem render_unary (h : x.Proper) (op : Operator) :
    (unary op x).render text = '¬' :: x.renderAs .negation text := by
  rw [render, isBinary_eq h, renderAs]

theorem nesting_unary (h : x.Proper) (op : Operator) :
    (unary op x).nesting = x.nestingAs .negation + 1 := by
  rw [nesting, isBinary_eq h, nestingAs]
  omega

theorem render_binary (h : Phrase.chain? op.phrase = some (op, B)) (x y : Formula α) :
    (binary op x y).render text =
      x.renderAs op.phrase text ++ [' ', op.glyph, ' '] ++ y.renderAs B text := by
  rw [render, wrapsLeft_eq, wrapsRight_eq h, renderAs, renderAs]

theorem nesting_binary (h : Phrase.chain? op.phrase = some (op, B)) (x y : Formula α) :
    (binary op x y).nesting = max (x.nestingAs op.phrase) (y.nestingAs B) := by
  rw [nesting, wrapsLeft_eq, wrapsRight_eq h, nestingAs, nestingAs]

theorem groups_le_one (A : Phrase) (x : Formula α) : x.groups A ≤ 1 := by
  unfold groups
  split <;> omega

-- In a tighter phrase more parentheses are needed.
theorem groups_mono (h : A.precedence ≤ B.precedence) (x : Formula α) :
    x.groups A ≤ x.groups B := by
  simp only [groups, needsGroup, decide_eq_true_eq]
  split <;> split <;> omega

theorem groups_phrase (x : Formula α) : x.groups x.phrase = 0 := by
  simp [groups, needsGroup]

theorem groups_expression (x : Formula α) : x.groups .expression = 0 := by
  have h : ¬x.phrase.precedence < Phrase.expression.precedence :=
    Nat.not_lt.mpr Phrase.precedence_pos
  simp [groups, needsGroup, h]

theorem nestingAs_eq (A : Phrase) (x : Formula α) : x.nestingAs A = x.nesting + x.groups A :=
  rfl

theorem nesting_le_nestingAs (A : Phrase) (x : Formula α) : x.nesting ≤ x.nestingAs A :=
  Nat.le_add_right ..

theorem nestingAs_phrase (x : Formula α) : x.nestingAs x.phrase = x.nesting := by
  rw [nestingAs_eq, groups_phrase, Nat.add_zero]

theorem nestingAs_mono (h : A.precedence ≤ B.precedence) (x : Formula α) :
    x.nestingAs A ≤ x.nestingAs B :=
  Nat.add_le_add_left (groups_mono h x) _

theorem nestingAs_expression (x : Formula α) : x.nestingAs .expression = x.nesting := by
  rw [nestingAs_eq, groups_expression, Nat.add_zero]

theorem nestingAs_le (x : Formula α) (A : Phrase) : x.nestingAs A ≤ x.nesting + 1 :=
  Nat.add_le_add_left (groups_le_one A x) _

end Writing

variable {n : Nat} {A : Phrase} {ts : List Lexeme} {x : Formula String}

-- What is opened in a phrase is enough for its formula to be written as that phrase.
theorem Derives.nestingAs_le (h : Derives n A ts x) : x.nestingAs A ≤ n := by
  induction h using stepwise
  case operand hA _ hi =>
    have hB := Phrase.chain?_operand_precedence hA
    exact Nat.le_trans (nestingAs_mono (by omega) _) hi
  case append op _ _ _ x y hA _ _ hx hy =>
    cases Operator.phrase_of_chain? hA
    rw [show op.phrase = phrase (binary op x y) from rfl, nestingAs_phrase, nesting_binary hA]
    exact Nat.max_le.mpr ⟨hx, hy⟩
  case denial n _ x h hi =>
    rw [show Phrase.negation = phrase (unary .not x) from rfl, nestingAs_phrase]
    rw [nesting_unary h.proper]
    exact Nat.succ_le_succ hi
  case primary hi =>
    exact Nat.le_trans (nestingAs_mono (by decide) _) hi
  case group x _ hi =>
    rw [nestingAs_expression] at hi
    exact Nat.le_trans (x.nestingAs_le .primary) (Nat.succ_le_succ hi)
  case constant => simp [nestingAs, nesting, needsGroup, phrase]
  case letter => simp [nestingAs, nesting, needsGroup, phrase]

theorem derives_renderAs_of_bare
    (bare : ∀ n, x.nesting ≤ n → Derives n x.phrase (lexemes (x.render String.toList)) x)
    (hn : x.nestingAs A ≤ n) : Derives n A (lexemes (x.renderAs A String.toList)) x := by
  rw [nestingAs] at hn
  rw [renderAs, wrapIf]
  split at hn
  case isTrue h =>
    obtain ⟨k, rfl⟩ : ∃ k, n = k + 1 := ⟨n - 1, by omega⟩
    rw [if_pos h, lexemes_parenthesized]
    have hd := (bare k (by omega)).loosen (A := .expression) Phrase.precedence_pos
    exact hd.group.loosen Phrase.precedence_le_primary
  case isFalse h =>
    rw [if_neg h]
    exact (bare n hn).loosen (by simpa [needsGroup] using h)

theorem derives_render (hp : x.Proper) (hl : x.Lettered) (hn : x.nesting ≤ n) :
    Derives n x.phrase (lexemes (x.render String.toList)) x := by
  induction x generalizing n
  case var name =>
    have hc : isLetterName name.toList := hl name (by simp [names])
    simpa [render, phrase, lexemes_letter hc] using Derives.letter (n := n) hc
  case const b => cases b <;> exact .constant
  case unary op x hi =>
    obtain ⟨rfl, hp⟩ := hp
    rw [nesting_unary hp] at hn
    obtain ⟨k, rfl⟩ : ∃ k, n = k + 1 := ⟨n - 1, by omega⟩
    rw [render_unary hp, lexemes_denied]
    exact .denial (derives_renderAs_of_bare (fun _ => hi hp hl) (by omega))
  case binary op x y hix hiy =>
    obtain ⟨hop, hpx, hpy⟩ := hp
    obtain ⟨B, hB⟩ := Operator.exists_operand hop
    rw [nesting_binary hB, Nat.max_le] at hn
    rw [render_binary hB, lexemes_joined]
    have hlx : x.Lettered := fun name h => hl name (by simp [names, h])
    have hly : y.Lettered := fun name h => hl name (by simp [names, h])
    have hx := derives_renderAs_of_bare (fun _ => hix hpx hlx) hn.1
    have hy := derives_renderAs_of_bare (fun _ => hiy hpy hly) hn.2
    exact hx.append hB hy

-- The formulas that some expression stands for.
structure Readable (x : Formula String) : Prop where
  proper : x.Proper
  lettered : x.Lettered
  nesting_le : x.nesting ≤ maxNesting
  depth_le : x.depth ≤ maxDepth

theorem Readable.parse_toExpression (h : Readable x) : parse x.toExpression = .ok x := by
  have hd := derives_render h.proper h.lettered h.nesting_le
  rw [parse_eq_ok_iff, toExpression, String.toList_ofList]
  exact ⟨hd.loosen Phrase.precedence_pos, h.depth_le⟩

theorem readable_of_parse (h : parse e = .ok x) : Readable x := by
  have ⟨hd, hx⟩ := derives_of_parse h
  exact {
    proper := hd.proper
    lettered := hd.lettered
    nesting_le := Nat.le_trans (nesting_le_nestingAs _ _) hd.nestingAs_le
    depth_le := hx
  }

theorem parse_render_of_readable :
    (∀ x : Formula String, Readable x → parse x.toExpression = .ok x) ∧
    (∀ e x, parse e = .ok x → Readable x ∧ parse x.toExpression = .ok x) :=
  ⟨fun _ h => h.parse_toExpression,
    fun _ _ h => ⟨readable_of_parse h, (readable_of_parse h).parse_toExpression⟩⟩

theorem parse_render_of_nested_implications :
    let x : Formula String := .binary .implies (.var "p")
      (.unary .not (.binary .implies (.binary .or (.var "q") (.const true)) (.var "r")))
    parse "p → ¬(q ∨ ⊤ → r)" = .ok x ∧
      parse "((p)) → ¬((q ∨ ⊤) → r)" = .ok x ∧ Readable x ∧ parse x.toExpression = .ok x := by
  intro x
  have hr : Readable x := {
    proper := by simp [x, Proper]
    lettered := by
      have hn : x.names = ["p", "q", "r"] := rfl
      simp only [Lettered, hn]
      decide
    nesting_le := by decide
    depth_le := by cbv
  }
  have he : parse "((p)) → ¬((q ∨ ⊤) → r)" = .ok x := by cbv
  exact ⟨parse_render_of_readable.1 x hr, he, parse_render_of_readable.2 _ x he⟩

end Formula

end Enunciado

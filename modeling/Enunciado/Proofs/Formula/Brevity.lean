import Enunciado.Proofs.Formula.Nesting

namespace Enunciado.Formula

open Token

section Writing

variable {α : Type} {A B : Phrase} {x : Formula α} {text : α → List Char}

theorem renderAs_eq_render (h : x.groups A = 0) : x.renderAs A text = x.render text := by
  have hg : ¬x.needsGroup A := by simpa [groups] using h
  rw [renderAs, wrapIf, if_neg hg]

theorem renderAs_phrase (x : Formula α) : x.renderAs x.phrase text = x.render text :=
  renderAs_eq_render x.groups_phrase

theorem renderAs_expression (x : Formula α) : x.renderAs .expression text = x.render text :=
  renderAs_eq_render x.groups_expression

theorem count_renderAs (A : Phrase) (x : Formula α) :
    (x.renderAs A text).count '(' = (x.render text).count '(' + x.groups A := by
  rw [renderAs, wrapIf, groups]
  split <;> simp

theorem count_renderAs_mono (h : A.precedence ≤ B.precedence) (x : Formula α) :
    (x.renderAs A text).count '(' ≤ (x.renderAs B text).count '(' := by
  rw [count_renderAs, count_renderAs]
  exact Nat.add_le_add_left (groups_mono h x) _

theorem count_renderAs_le (A : Phrase) (x : Formula α) :
    (x.renderAs A text).count '(' ≤ (x.render text).count '(' + 1 := by
  rw [count_renderAs]
  exact Nat.add_le_add_left (groups_le_one A x) _

theorem count_renderAs_unary (h : x.Proper) (op : Operator) :
    ((unary op x).renderAs .negation text).count '(' = (x.renderAs .negation text).count '(' := by
  rw [show Phrase.negation = phrase (unary op x) from rfl, renderAs_phrase, render_unary h]
  exact List.count_cons_of_ne (by decide)

theorem count_renderAs_binary (h : Phrase.chain? op.phrase = some (op, B)) (x y : Formula α) :
    ((binary op x y).renderAs op.phrase text).count '(' =
      (x.renderAs op.phrase text).count '(' + (y.renderAs B text).count '(' := by
  have hg : [' ', op.glyph, ' '].count '(' = 0 := by cases op <;> decide
  rw [show op.phrase = phrase (binary op x y) from rfl, renderAs_phrase, render_binary h,
    List.count_append, List.count_append, hg, Nat.add_zero]
  rfl

end Writing

-- Each parenthesis that is written for a phrase was needed to derive it: an operand that is looser
-- than its place, or as loose as the chain that it ends, is derived in a group only.
theorem Derives.count_renderAs_le (h : Derives n A ts x) :
    (x.renderAs A String.toList).count '(' ≤ (ts.flatMap (·.text)).count '(' := by
  induction h using Derives.stepwise
  case operand hA _ hi =>
    have hB := Phrase.chain?_operand_precedence hA
    exact Nat.le_trans (count_renderAs_mono (by omega) _) hi
  case append hA hx hy hix hiy =>
    cases Operator.phrase_of_chain? hA
    rw [count_renderAs_binary hA, List.flatMap_append, List.count_append, List.flatMap_cons,
      List.count_append]
    omega
  case denial h hi =>
    rw [count_renderAs_unary h.proper, List.flatMap_cons, List.count_append]
    omega
  case primary hi => exact Nat.le_trans (count_renderAs_mono (by decide) _) hi
  case group x _ hi =>
    rw [renderAs_expression] at hi
    have : (x.renderAs .primary String.toList).count '(' ≤ _ :=
      Formula.count_renderAs_le .primary x
    simp only [List.cons_append, List.flatMap_cons, List.flatMap_append, List.count_append]
    have : (Lexeme.text .opening).count '(' = 1 := rfl
    omega
  case constant b => cases b <;> decide
  case letter chars hc =>
    have : (var (String.ofList chars)).renderAs .primary String.toList = chars := by
      rw [show Phrase.primary = phrase (var (String.ofList chars)) from rfl, renderAs_phrase,
        render, String.toList_ofList]
    simp [this, Lexeme.text]

theorem count_toExpression_le (h : parse e = .ok x) :
    x.toExpression.toList.count '(' ≤ e.toList.count '(' := by
  have hc := (derives_of_parse h).1.count_renderAs_le
  rw [renderAs_expression, flatMap_text_lexemes, List.count_filter (by decide)] at hc
  rwa [toExpression, String.toList_ofList]

theorem nesting_toExpression_le (h : parse e = .ok x) :
    Token.nesting x.toExpression.toList ≤ Token.nesting e.toList := by
  have hn := (derives_nesting_of_parse h).nestingAs_le
  rwa [nestingAs_expression, ← nesting_toExpression (readable_of_parse h)] at hn

-- Of all expressions of a formula, the one that is written has the fewest parentheses, and none
-- nests parentheses and negations less deep.
theorem toExpression_is_sparest (h : parse e = .ok x) :
    parse x.toExpression = .ok x ∧ x.toExpression.toList.count '(' ≤ e.toList.count '(' ∧
      Token.nesting x.toExpression.toList ≤ Token.nesting e.toList :=
  ⟨(readable_of_parse h).parse_toExpression, count_toExpression_le h, nesting_toExpression_le h⟩

-- The parentheses of the chain on the right have to stay, and those behind the negation.
theorem sparest_of_implications :
    let e := "((p)) → (¬((q ∨ ⊤) ∧ r) → r)"
    let written := "p → (¬((q ∨ ⊤) ∧ r) → r)"
    ∃ x, parse e = .ok x ∧ x.toExpression = written ∧
      written.toList.count '(' ≤ e.toList.count '(' ∧
      Token.nesting written.toList ≤ Token.nesting e.toList ∧
      written.toList.count '(' = 3 ∧ Token.nesting written.toList = 4 := by
  intro e written
  let x : Formula String := .binary .implies (.var "p") (.binary .implies
    (.unary .not (.binary .and (.binary .or (.var "q") (.const true)) (.var "r"))) (.var "r"))
  have hx : parse "((p)) → (¬((q ∨ ⊤) ∧ r) → r)" = .ok x := by cbv
  have hw : x.toExpression = written := by decide
  obtain ⟨-, hc, hn⟩ := toExpression_is_sparest hx
  exact ⟨x, hx, hw, hw ▸ hc, hw ▸ hn, by decide, by decide⟩

end Enunciado.Formula

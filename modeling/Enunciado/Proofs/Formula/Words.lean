import Enunciado.Proofs.Formula.RoundTrip

namespace Enunciado

namespace Lexeme

-- Whether the lexeme stands for a part of a formula: it is no parenthesis, and not the ending.
def isWord : Lexeme → Bool
  | opening | closing | ending => false
  | _ => true

-- The name that the lexeme is, if it is one.
def name? : Lexeme → Option String
  | name chars => some (String.ofList chars)
  | _ => none

theorem name?_eq_some_iff {l : Lexeme} : l.name? = some s ↔ l = .name s.toList := by
  cases l
  case name chars => simp [name?, ← String.toList_inj]
  all_goals simp [name?]

theorem isWord_of_name? {l : Lexeme} (h : l.name? = some s) : l.isWord := by
  rw [name?_eq_some_iff.mp h]
  rfl

end Lexeme

namespace Token

-- The words of an expression, without the places where they stand.
def words (s : List Char) : List Lexeme :=
  ((tokenize s).map (·.lexeme)).filter (·.isWord)

theorem words_eq (s : List Char) : words s = (lexemes s).filter (·.isWord) := by
  rw [words, map_lexeme_tokenize, List.filter_append]
  exact List.append_nil _

theorem name?_eq_some_iff {t : Token} {name : String} :
    t.lexeme.name? = some name ↔ t.lexeme.kind = "IDENT" ∧ t.text = name := by
  obtain ⟨l, i⟩ := t
  cases l
  case name chars => simp [Lexeme.name?, Lexeme.kind, text, Lexeme.text]
  case constant b => cases b <;> simp [Lexeme.name?, Lexeme.kind]
  case operator op => cases op <;> simp [Lexeme.name?, Lexeme.kind, Operator.name]
  all_goals simp [Lexeme.name?, Lexeme.kind]

end Token

namespace Formula

open Token

-- The words of the formula: each connective stands between the words of its sides, each negation
-- before those of what it denies.
def words : Formula String → List Lexeme
  | var name => [.name name.toList]
  | const b => [.constant b]
  | unary op x => .operator op :: x.words
  | binary op x y => x.words ++ .operator op :: y.words

theorem filterMap_name?_words (x : Formula String) : x.words.filterMap (·.name?) = x.names := by
  induction x
  case var => simp [words, names, Lexeme.name?]
  case const => rfl
  case unary op x hi => rw [words, List.filterMap_cons_none rfl, hi, names]
  case binary op x y hx hy =>
    rw [words, List.filterMap_append, List.filterMap_cons_none rfl, hx, hy, names]

theorem Derives.words (h : Derives n A ts x) : ts.filter (·.isWord) = x.words := by
  induction h using Derives.stepwise
  case operand hi => exact hi
  case append hx hy =>
    rw [List.filter_append, List.filter_cons_of_pos rfl, hx, hy, Formula.words]
  case denial hi => rw [List.filter_cons_of_pos rfl, hi, Formula.words]
  case primary hi => exact hi
  case group hi =>
    rw [List.cons_append, List.filter_cons_of_neg Bool.false_ne_true, List.filter_append, hi]
    exact List.append_nil _
  case constant => rfl
  case letter =>
    rw [Formula.words, String.toList_ofList]
    rfl

theorem words_of_parse (h : parse e = .ok x) : Token.words e.toList = x.words := by
  rw [words_eq]
  exact (derives_of_parse h).1.words

theorem mem_names_iff (h : parse e = .ok x) :
    name ∈ x.names ↔ ∃ t ∈ tokenize e.toList, t.lexeme.kind = "IDENT" ∧ t.text = name := by
  rw [← filterMap_name?_words, ← words_of_parse h, Token.words]
  simp only [List.mem_filterMap, List.mem_filter, List.mem_map, ← name?_eq_some_iff]
  constructor
  case mp =>
    rintro ⟨_, ⟨⟨t, ht, rfl⟩, -⟩, hl⟩
    exact ⟨t, ht, hl⟩
  case mpr =>
    rintro ⟨t, ht, hl⟩
    exact ⟨_, ⟨⟨t, ht, rfl⟩, Lexeme.isWord_of_name? hl⟩, hl⟩

theorem parse_keeps_words (h : parse e = .ok x) :
    Token.words e.toList = Token.words x.toExpression.toList ∧ Token.words e.toList = x.words ∧
      ∀ name, name ∈ x.names ↔
        ∃ t ∈ tokenize e.toList, t.lexeme.kind = "IDENT" ∧ t.text = name := by
  have hr := words_of_parse (readable_of_parse h).parse_toExpression
  exact ⟨(words_of_parse h).trans hr.symm, words_of_parse h, fun name => mem_names_iff h⟩

theorem parse_keeps_words_of_groups :
    let x : Formula String :=
      .binary .implies (.binary .implies (.var "p") (.const true)) (.unary .not (.var "q"))
    parse "((p → ⊤)) → ¬(q)" = .ok x ∧ x.toExpression = "p → ⊤ → ¬q" ∧
      Token.words "((p → ⊤)) → ¬(q)".toList = Token.words "p → ⊤ → ¬q".toList ∧
      Token.words "((p → ⊤)) → ¬(q)".toList =
        [.name ['p'], .operator .implies, .constant true, .operator .implies, .operator .not,
          .name ['q']] := by
  intro x
  have hx : parse "((p → ⊤)) → ¬(q)" = .ok x := by cbv
  have hr : x.toExpression = "p → ⊤ → ¬q" := by decide
  obtain ⟨hw, hi, -⟩ := parse_keeps_words hx
  exact ⟨hx, hr, hr ▸ hw, hi⟩

end Formula

end Enunciado

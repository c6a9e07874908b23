import Enunciado.Formula.Token

namespace Enunciado

inductive SyntaxError
  | blank
  | unbalanced
  | trailing (found : Token)
  | tooDeep
  | tooNested (found : Token)
  | noClosing (found : Token)
  | badName (found : Token)
  | unexpectedEnd
  | unexpected (found : Token)
deriving DecidableEq, Repr

namespace Formula

-- How many parentheses and negations may be open at one place.
def maxNesting : Nat := 50

-- How deep a formula may be.
def maxDepth : Nat := 256

-- The connectives, the loosest first.
def tiers : List Operator := [.iff, .implies, .or, .and]

-- What is left of the tokens after at least one.
abbrev Rest (ts : List Token) := { r : List Token // r.length < ts.length }

-- What is left of the tokens, perhaps all.
abbrev Tail (ts : List Token) := { r : List Token // r.length ≤ ts.length }

-- Whether the characters make up the name of a proposition: one small letter from a to z.
def isLetterName : List Char → Bool
  | [c] => 'a' ≤ c ∧ c ≤ 'z'
  | _ => false

mutual

-- A formula of the tier whose connective comes first among `ops`.
def readTier (nesting : Nat) (ops : List Operator) (ts : List Token) :
    Except SyntaxError (Formula String × Rest ts) :=
  match ops with
  | [] => readNegation nesting ts
  | op :: ops =>
    match readTier nesting ops ts with
    | .error e => .error e
    | .ok (left, ⟨r, hr⟩) =>
      match readChain nesting op ops left r with
      | .error e => .error e
      | .ok (x, ⟨t, ht⟩) => .ok (x, ⟨t, by omega⟩)
termination_by (ts.length, ops.length + 2)

-- Goes on with a chain of operands joined by `op`, of which `left` has been read.
def readChain (nesting : Nat) (op : Operator) (ops : List Operator) (left : Formula String)
    (ts : List Token) : Except SyntaxError (Formula String × Tail ts) :=
  match ts with
  | [] => .ok (left, ⟨[], by simp⟩)
  | t :: ts =>
    if t.lexeme = .operator op then
      match readTier nesting ops ts with
      | .error e => .error e
      | .ok (right, ⟨r, hr⟩) =>
        match readChain nesting op ops (.binary op left right) r with
        | .error e => .error e
        | .ok (x, ⟨r', hr'⟩) => .ok (x, ⟨r', by simp; omega⟩)
    else .ok (left, ⟨t :: ts, by simp⟩)
termination_by (ts.length, 0)

-- A negation, or a formula without a connective outside parentheses.
def readNegation (nesting : Nat) (ts : List Token) :
    Except SyntaxError (Formula String × Rest ts) :=
  match ts with
  | [] => .error .unexpectedEnd
  | t :: ts =>
    if t.lexeme = .operator .not then
      if nesting < maxNesting then
        match readNegation (nesting + 1) ts with
        | .error e => .error e
        | .ok (x, ⟨r, hr⟩) => .ok (.unary .not x, ⟨r, by simp; omega⟩)
      else .error (.tooNested t)
    else readPrimary nesting (t :: ts)
termination_by (ts.length, 1)

-- A name, a constant, or a formula in parentheses.
def readPrimary (nesting : Nat) (ts : List Token) :
    Except SyntaxError (Formula String × Rest ts) :=
  match ts with
  | [] => .error .unexpectedEnd
  | t :: ts =>
    match t.lexeme with
    | .opening =>
      if nesting < maxNesting then
        match readTier (nesting + 1) tiers ts with
        | .error e => .error e
        | .ok (x, ⟨r, hr⟩) =>
          match r with
          | [] => .error .unexpectedEnd
          | u :: r =>
            if u.lexeme = .closing then .ok (x, ⟨r, by simp at hr ⊢; omega⟩)
            else .error (.noClosing u)
      else .error (.tooNested t)
    | .constant b => .ok (.const b, ⟨ts, by simp⟩)
    | .name chars =>
      if isLetterName chars then .ok (.var (String.ofList chars), ⟨ts, by simp⟩)
      else .error (.badName t)
    | .ending => .error .unexpectedEnd
    | .closing | .operator _ => .error (.unexpected t)
termination_by (ts.length, 0)

end

def ofTokens (ts : List Token) : Except SyntaxError (Formula String) :=
  match readTier 0 tiers ts with
  | .error e => .error e
  | .ok (x, ⟨t :: _, _⟩) => if t.lexeme = .ending then .ok x else .error (.trailing t)
  | .ok (x, ⟨[], _⟩) => .ok x

def ofChars (s : List Char) : Except SyntaxError (Formula String) :=
  if Text.isVoid s then .error .blank
  else if balanced s then
    match ofTokens (Token.tokenize s) with
    | .error e => .error e
    | .ok x => if x.depth ≤ maxDepth then .ok x else .error .tooDeep
  else .error .unbalanced

def parse (expression : String) : Except SyntaxError (Formula String) :=
  ofChars expression.toList

end Formula

namespace SyntaxError

-- The token at fault, if it has a text.
def token? : SyntaxError → Option Token
  | trailing t | tooNested t | noClosing t | badName t | unexpected t =>
    if t.lexeme = .ending then none else some t
  | blank | unbalanced | tooDeep | unexpectedEnd => none

def message : SyntaxError → String
  | blank => "La expresión lógica no puede estar vacía."
  | unbalanced => "Paréntesis no balanceados en la expresión."
  | trailing t =>
    s!"Tokens inesperados después de la expresión: '{t.text}' en posición {t.position}"
  | tooDeep => s!"Expresión demasiado profunda: más de {Formula.maxDepth} operadores encadenados."
  | tooNested t =>
    s!"Expresión demasiado anidada: más de {Formula.maxNesting} niveles de paréntesis " ++
      s!"o negaciones (posición {t.position})."
  | noClosing t =>
    let found := if t.lexeme = .ending then "fin de la expresión" else t.text
    s!"Se esperaba ')' pero se encontró '{found}' en posición {t.position}"
  | badName t =>
    s!"Identificador inválido '{t.text}' en posición {t.position}: " ++
      "las proposiciones deben ser una sola letra minúscula."
  | unexpectedEnd => "Fin inesperado de la expresión: se esperaba una proposición, '¬' o '('."
  | unexpected t =>
    s!"Se esperaba una proposición, '¬' o '(' pero se encontró '{t.text}' en posición {t.position}"

end SyntaxError

end Enunciado

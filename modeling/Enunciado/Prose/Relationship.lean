import Enunciado.Prose.Clause
import Enunciado.Prose.Conditional
import Enunciado.Prose.Sentence

namespace Enunciado.Prose

open Text

inductive ExtractionError
  | unmatched (term : List Char)
  -- A sentence that begins with "pero" after a conditional and is none.
  | continuation (sentence : List Char)
  | nothing
deriving DecidableEq, Repr

namespace ExtractionError

-- The clause at fault, if it is known.
def clause? : ExtractionError → Option String
  | unmatched s | continuation s => some (String.ofList s)
  | nothing => none

def message : ExtractionError → String
  | unmatched s => s!"No se pudo asociar la cláusula \"{String.ofList s}\" con ninguna proposición."
  | continuation s =>
    s!"La oración \"{String.ofList s}\" comienza con \"pero\" pero no tiene " ++
      "la forma \"si ... entonces ...\"."
  | nothing => "No se encontró ninguna estructura lógica en el texto."

end ExtractionError

-- What a sentence, or a sentence and its continuation, states; `γ` is the type of its clauses.
inductive Statement (γ : Type)
  | plain (c : γ)
  | conditional (a c : γ)
  | chained (a₁ c₁ a₂ c₂ : γ)
deriving DecidableEq, Repr

-- A statement, and the normal form of the sentences that state it.
structure Relationship (γ : Type) where
  statement : Statement γ
  source : List Char
deriving DecidableEq, Repr

section Rendering

namespace Statement

variable {γ σ : Type}

def kind : Statement γ → String
  | plain _ => "clause"
  | conditional _ _ => "implication"
  | chained _ _ _ _ => "chained"

-- "(A) → (C)".
def renderConditional (a c : List Char) : List Char :=
  '(' :: a ++ [')', ' ', '→', ' ', '('] ++ c ++ [')']

-- "(A) ∧ (C)".
def renderPair (x y : List Char) : List Char :=
  '(' :: x ++ [')', ' ', '∧', ' ', '('] ++ y ++ [')']

-- The statement as an expression, with clauses written by `text`.
def render (text : γ → List Char) : Statement γ → List Char
  | plain c => text c
  | conditional a c => renderConditional (text a) (text c)
  | chained a₁ c₁ a₂ c₂ =>
    renderPair (renderConditional (text a₁) (text c₁)) (renderConditional (text a₂) (text c₂))

def formula : Statement (Clause σ) → Formula σ
  | plain c => c.formula
  | conditional a c => .binary .implies a.formula c.formula
  | chained a₁ c₁ a₂ c₂ =>
    .binary .and (.binary .implies a₁.formula c₁.formula) (.binary .implies a₂.formula c₂.formula)

end Statement

-- Expressions of several statements as one: a single one stays as it is, and of more each stands
-- in parentheses.
def conjoin : List (List Char) → List Char
  | [s] => s
  | parts => joinWith [' ', '∧', ' '] (parts.map fun s => '(' :: s ++ [')'])

end Rendering

section Reading

-- Whether a sentence begins with the word "pero".
def startsWithPero (s : List Char) : Bool :=
  (afterKeyword? "pero".toList s).isSome

-- Why sentences state nothing: a clause, or a sentence that begins with "pero" after a conditional
-- and is none.
inductive RelationError (ε : Type)
  | clause (e : ε)
  | continuation (sentence : List Char)
deriving DecidableEq, Repr

variable {γ ε : Type}

-- The two clauses of a conditional, as `read` reads them.
def readConditional (read : List Char → Except ε γ) (parts : List Char × List Char) :
    Except (RelationError ε) (γ × γ) :=
  match read parts.1 with
  | .error e => .error (.clause e)
  | .ok a => match read parts.2 with
    | .error e => .error (.clause e)
    | .ok c => .ok (a, c)

-- The relationships that the sentences state, with clauses as `read` reads them, and those of
-- conditionals as `readBoth` does. A sentence that is no conditional states none if its clause
-- cannot be read for an `ignorable` reason.
def relate (read : List Char → Except ε γ)
    (readBoth : List Char × List Char → Except (RelationError ε) (γ × γ)) (ignorable : ε → Bool) :
    List (List Char) → Except (RelationError ε) (List (Relationship γ))
  | [] => .ok []
  | s :: rest =>
    match conditional? s with
    | none =>
      match read s with
      | .error e => if ignorable e then relate read readBoth ignorable rest else .error (.clause e)
      | .ok c => (relate read readBoth ignorable rest).map (⟨.plain c, s⟩ :: ·)
    | some parts =>
      match readBoth parts with
      | .error e => .error e
      | .ok (a, c) =>
        match rest with
        | [] => .ok [⟨.conditional a c, s⟩]
        | next :: rest' =>
          if startsWithPero next then
            match conditional? next with
            | none => .error (.continuation next)
            | some parts' =>
              match readBoth parts' with
              | .error e => .error e
              | .ok (a', c') =>
                (relate read readBoth ignorable rest').map
                  (⟨.chained a c a' c', s ++ ['.', ' '] ++ next⟩ :: ·)
          else (relate read readBoth ignorable (next :: rest')).map (⟨.conditional a c, s⟩ :: ·)

end Reading

def ExtractionError.ofRelation : RelationError Unmatched → ExtractionError
  | .clause e => unmatched e.term
  | .continuation s => continuation s

-- The relationships that a text states. A sentence that is no conditional and speaks of no
-- proposition states none.
def relationships {σ : Type} (ps : List (Proposition σ String)) (text : String) :
    Except ExtractionError (List (Relationship (Clause σ))) :=
  (relate (readClause ps) (readConditional (readClause ps)) (fun _ => true)
    (sentences (normalize text.toList))).mapError ExtractionError.ofRelation

def extract (ps : List Named) (text : String) : Except ExtractionError String :=
  match relationships ps text with
  | .error e => .error e
  | .ok [] => .error .nothing
  | .ok rs =>
    .ok (String.ofList (conjoin (rs.map fun r => r.statement.render (Clause.render String.toList))))

end Enunciado.Prose

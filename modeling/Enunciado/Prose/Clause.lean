import Enunciado.Formula.Basic
import Enunciado.Prose.Match

namespace Enunciado.Prose

open Text

structure Literal (σ : Type) where
  negated : Bool
  symbol : σ
deriving DecidableEq, Repr

-- A conjunction of disjunctions of literals, affirmed or denied as a whole.
structure Clause (σ : Type) where
  negated : Bool
  conjuncts : List (List (Literal σ))
deriving DecidableEq, Repr

structure Unmatched where
  term : List Char
deriving DecidableEq, Repr

section Rendering

variable {σ : Type}

def denyIf (negated : Bool) (s : List Char) : List Char :=
  if negated then '¬' :: s else s

-- Expressions joined by an operator, in parentheses if there are two or more.
def chain (op : Operator) : List (List Char) → List Char
  | [s] => s
  | parts => '(' :: joinWith [' ', op.glyph, ' '] parts ++ [')']

def Literal.render (text : σ → List Char) (l : Literal σ) : List Char :=
  denyIf l.negated (text l.symbol)

def Clause.render (text : σ → List Char) (c : Clause σ) : List Char :=
  denyIf c.negated
    (chain .and (c.conjuncts.map fun disjuncts => chain .or (disjuncts.map (·.render text))))

end Rendering

section Meaning

variable {σ : Type}

-- Formulas joined by an operator, folded to the left.
def foldLeft (op : Operator) : List (Formula σ) → Formula σ
  | [] => .const true
  | x :: xs => xs.foldl (.binary op) x

def Literal.formula (l : Literal σ) : Formula σ :=
  if l.negated then .unary .not (.var l.symbol) else .var l.symbol

def Clause.formula (c : Clause σ) : Formula σ :=
  let x := foldLeft .and (c.conjuncts.map fun disjuncts => foldLeft .or (disjuncts.map (·.formula)))
  if c.negated then .unary .not x else x

end Meaning

section Reading

-- The parts of a text between the occurrences of the word `w`, a letter with blanks around it.
-- The blanks go with the word.
def splitAtWord (w : Char) (s : List Char) : List (List Char) :=
  match s with
  | [] => [[]]
  | c :: s =>
    if isBlank c then
      match afterWord? w s with
      | some ⟨r, hr⟩ => [] :: splitAtWord w r
      | none => extendFirst c (splitAtWord w s)
    else extendFirst c (splitAtWord w s)
termination_by s.length
decreasing_by all_goals simp; try omega
where
  -- What follows the word and its blanks, if only blanks come before it.
  afterWord? (w : Char) (s : List Char) : Option { r : List Char // r.length ≤ s.length } :=
    match hs : s.dropWhile isBlank with
    | c :: d :: r =>
      if c = w && isBlank d then
        some ⟨r.dropWhile isBlank, by
          have h := (List.dropWhile_sublist isBlank (l := s)).length_le
          have := (List.dropWhile_sublist isBlank (l := r)).length_le
          rw [hs] at h
          simp at h; omega⟩
      else none
    | _ => none
  extendFirst (c : Char) : List (List Char) → List (List Char)
    | [] => [[c]]
    | part :: parts => (c :: part) :: parts

-- Whether a text begins with "no ", and what follows it; without blanks around either.
def stripNegation (s : List Char) : Bool × List Char :=
  match trim s with
  | 'n' :: 'o' :: ' ' :: r => (true, trim r)
  | s => (false, s)

variable {σ : Type}

def readLiteral (ps : List (Proposition σ String)) (s : List Char) :
    Except Unmatched (Literal σ) :=
  let (negated, term) := stripNegation s
  match bestMatch ps term with
  | some p => .ok ⟨negated, p.symbol⟩
  | none => .error ⟨term⟩

def readClause (ps : List (Proposition σ String)) (s : List Char) :
    Except Unmatched (Clause σ) := do
  let (negated, text) := stripNegation s
  let conjuncts ← (splitAtWord 'y' text).mapM fun part =>
    (splitAtWord 'o' part).mapM (readLiteral ps)
  return ⟨negated, conjuncts⟩

end Reading

end Enunciado.Prose

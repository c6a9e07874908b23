import Enunciado.Formula.Basic

namespace Enunciado.Formula

variable {α : Type}

-- The precedence of the outermost connective, if there is one.
def outerPrecedence? : Formula α → Option Nat
  | binary op _ _ => some op.precedence
  | _ => none

-- Whether an operand on the left of `op` needs parentheses.
def wrapsLeft (op : Operator) (x : Formula α) : Bool :=
  x.outerPrecedence?.any (· < op.precedence)

-- Whether an operand on the right of `op` needs parentheses; chains fold to the left.
def wrapsRight (op : Operator) (x : Formula α) : Bool :=
  x.outerPrecedence?.any (· ≤ op.precedence)

def wrapIf (wraps : Bool) (s : List Char) : List Char :=
  if wraps then '(' :: s ++ [')'] else s

-- The formula as an expression, with names written by `text`.
def render (text : α → List Char) : Formula α → List Char
  | var name => text name
  | const true => ['⊤']
  | const false => ['⊥']
  | unary _ x => '¬' :: wrapIf x.isBinary (x.render text)
  | binary op x y =>
    wrapIf (wrapsLeft op x) (x.render text) ++ [' ', op.glyph, ' '] ++
      wrapIf (wrapsRight op y) (y.render text)

-- How many parentheses and negations are nested in the expression of the formula.
def nesting : Formula α → Nat
  | var _ => 0
  | const _ => 0
  | unary _ x => 1 + x.nesting + (if x.isBinary then 1 else 0)
  | binary op x y =>
    max (x.nesting + (if wrapsLeft op x then 1 else 0))
      (y.nesting + (if wrapsRight op y then 1 else 0))

def toExpression (x : Formula String) : String :=
  String.ofList (x.render String.toList)

end Enunciado.Formula

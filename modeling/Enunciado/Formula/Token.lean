import Enunciado.Formula.Basic
import Enunciado.Text.Blank
import Enunciado.Text.Quoted

namespace Enunciado

inductive Lexeme
  | name (chars : List Char)
  | constant (value : Bool)
  | operator (op : Operator)
  | opening
  | closing
  | ending
deriving DecidableEq, Repr

namespace Lexeme

def text : Lexeme → List Char
  | name chars => chars
  | constant true => ['⊤']
  | constant false => ['⊥']
  | operator op => [op.glyph]
  | opening => ['(']
  | closing => [')']
  | ending => []

def kind : Lexeme → String
  | name _ => "IDENT"
  | constant true => "TRUE"
  | constant false => "FALSE"
  | operator op => op.name
  | opening => "LPAREN"
  | closing => "RPAREN"
  | ending => "EOF"

def reserved? : Char → Option Lexeme
  | '⊤' => some (constant true)
  | '⊥' => some (constant false)
  | '¬' => some (operator .not)
  | '∧' => some (operator .and)
  | '∨' => some (operator .or)
  | '→' => some (operator .implies)
  | '↔' => some (operator .iff)
  | '(' => some opening
  | ')' => some closing
  | _ => none

theorem text_of_reserved? {c : Char} {l : Lexeme} (h : reserved? c = some l) : l.text = [c] := by
  unfold reserved? at h
  split at h <;> cases h <;> rfl

end Lexeme

-- A lexeme, and the number of characters before it.
structure Token where
  lexeme : Lexeme
  position : Nat
deriving DecidableEq, Repr

namespace Token

def text (t : Token) : String :=
  String.ofList t.lexeme.text

def describe (t : Token) : String :=
  s!"Token({t.lexeme.kind}, {Text.inQuotes t.text})"

-- The token of the name whose characters, last first, end before `position`.
def ofPending (position : Nat) : List Char → List Token
  | [] => []
  | pending => [⟨.name pending.reverse, position - pending.length⟩]

-- The tokens of what is left of an expression, with the characters of a name that has begun.
def scan (position : Nat) (pending : List Char) : List Char → List Token
  | [] => ofPending position pending ++ [⟨.ending, position⟩]
  | c :: s =>
    match Lexeme.reserved? c with
    | some l => ofPending position pending ++ ⟨l, position⟩ :: scan (position + 1) [] s
    | none =>
      if Text.isBlank c then ofPending position pending ++ scan (position + 1) [] s
      else scan (position + 1) (c :: pending) s

-- The tokens of an expression. The last one is the ending, and there is no other.
def tokenize (s : List Char) : List Token :=
  scan 0 [] s

end Token

-- Whether every closing parenthesis has an opening one before it, of which `unclosed` are already
-- open, and none stays open.
def balancedFrom (unclosed : Nat) : List Char → Bool
  | [] => unclosed = 0
  | c :: s =>
    if c = '(' then balancedFrom (unclosed + 1) s
    else if c = ')' then
      match unclosed with
      | 0 => false
      | n + 1 => balancedFrom n s
    else balancedFrom unclosed s

def balanced (s : List Char) : Bool :=
  balancedFrom 0 s

end Enunciado

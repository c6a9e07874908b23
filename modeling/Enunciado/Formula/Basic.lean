namespace Enunciado

inductive Operator
  | not
  | and
  | or
  | implies
  | iff
deriving DecidableEq, Repr

namespace Operator

def glyph : Operator → Char
  | not => '¬'
  | and => '∧'
  | or => '∨'
  | implies => '→'
  | iff => '↔'

def name : Operator → String
  | not => "NOT"
  | and => "AND"
  | or => "OR"
  | implies => "IMPLIES"
  | iff => "IFF"

def all : List Operator := [not, and, or, implies, iff]

def ofName? (s : String) : Option Operator :=
  all.find? (·.name = s)

theorem ofName?_name (op : Operator) : ofName? op.name = some op := by
  cases op <;> decide

def precedence : Operator → Nat
  | iff => 1
  | implies => 2
  | or => 3
  | and => 4
  | not => 5

end Operator

-- A formula. Those that come from an expression have negations and binary connectives only; a
-- document may also join two formulas by a negation or put a connective before one.
inductive Formula (α : Type)
  | var (name : α)
  | const (value : Bool)
  | unary (op : Operator) (operand : Formula α)
  | binary (op : Operator) (left right : Formula α)
deriving DecidableEq, Repr

namespace Formula

variable {α β : Type}

def map (f : α → β) : Formula α → Formula β
  | var name => var (f name)
  | const b => const b
  | unary op x => unary op (x.map f)
  | binary op x y => binary op (x.map f) (y.map f)

theorem map_id (x : Formula α) : x.map id = x := by
  induction x <;> simp_all [map]

theorem map_map {γ : Type} (f : α → β) (g : β → γ) (x : Formula α) :
    (x.map f).map g = x.map (g ∘ f) := by
  induction x <;> simp_all [map]

def isBinary : Formula α → Bool
  | binary _ _ _ => true
  | _ => false

-- Negation is the only operator before one formula, and never stands between two.
def Proper : Formula α → Prop
  | var _ => True
  | const _ => True
  | unary op x => op = .not ∧ x.Proper
  | binary op x y => op ≠ .not ∧ x.Proper ∧ y.Proper

-- The names in the formula, from left to right, with repetitions.
def names : Formula α → List α
  | var name => [name]
  | const _ => []
  | unary _ x => x.names
  | binary _ x y => x.names ++ y.names

def size : Formula α → Nat
  | var _ => 1
  | const _ => 1
  | unary _ x => x.size + 1
  | binary _ x y => x.size + y.size + 1

theorem size_pos (x : Formula α) : 0 < x.size := by
  cases x <;> simp [size]

def height : Formula α → Nat
  | var _ => 1
  | const _ => 1
  | unary _ x => x.height + 1
  | binary _ x y => max x.height y.height + 1

-- The nodes that are still to be visited, each with its level, have this many below them.
def pending : List (Formula α × Nat) → Nat
  | [] => 0
  | (x, _) :: work => x.size + pending work

-- The deepest level among `deepest` and the nodes that are still to be visited.
def visit (deepest : Nat) : List (Formula α × Nat) → Nat
  | [] => deepest
  | (var _, level) :: work => visit (max deepest level) work
  | (const _, level) :: work => visit (max deepest level) work
  | (unary _ x, level) :: work => visit (max deepest level) ((x, level + 1) :: work)
  | (binary _ x y, level) :: work =>
    visit (max deepest level) ((y, level + 1) :: (x, level + 1) :: work)
termination_by work => pending work
decreasing_by all_goals simp [pending, size]; try omega

-- The depth of the formula, found without recursion on it.
def depth (x : Formula α) : Nat :=
  visit 0 [(x, 1)]

end Formula

end Enunciado

import Std.Data.HashSet
import Enunciado.Formula.Semantics
import Enunciado.Formula.Document

namespace Enunciado

-- An assignment, with the value of a formula under it.
structure Row where
  assignment : Assignment
  result : Bool
deriving DecidableEq, Hashable, Repr

-- All lists of `n` truth values, in binary order with false before true.
def valuations : Nat → List (List Bool)
  | 0 => [[]]
  | n + 1 => (valuations n).map (false :: ·) ++ (valuations n).map (true :: ·)

theorem length_valuations (n : Nat) : (valuations n).length = Nat.pow 2 n := by
  induction n with
  | zero => rfl
  | succ n ih => simp [valuations, ih]; omega

theorem mem_valuations {n : Nat} {vs : List Bool} : vs ∈ valuations n ↔ vs.length = n := by
  induction n generalizing vs with
  | zero => simp [valuations]
  | succ n ih =>
    cases vs with
    | nil => simp [valuations]
    | cons v vs => cases v <;> simp [valuations, ih]

-- All assignments to the symbols. Of a symbol that is repeated the first place and the last value
-- stay.
def assignments (symbols : List String) : List Assignment :=
  (valuations symbols.length).map fun vs => ofPairs (symbols.zip vs)

theorem length_assignments (symbols : List String) :
    (assignments symbols).length = Nat.pow 2 symbols.length := by
  simp [assignments, length_valuations]

def truthTable {α : Type} (env : Assignment → Environment α) (x : Formula α)
    (symbols : List String) : Except EvaluationError (List Row) :=
  (assignments symbols).mapM fun a => (x.evaluate (env a)).map fun b => ⟨a, b⟩

inductive Verdict
  | tautology
  | contradiction
  | contingency
deriving DecidableEq, Repr

namespace Verdict

def name : Verdict → String
  | tautology => "TAUTOLOGY"
  | contradiction => "CONTRADICTION"
  | contingency => "CONTINGENCY"

def label : Verdict → String
  | tautology => "Tautología"
  | contradiction => "Contradicción"
  | contingency => "Contingencia"

def all : List Verdict := [tautology, contradiction, contingency]

def ofJson (v : Json) : Except DocumentError Verdict :=
  match all.find? (.str ·.label = v) with
  | some verdict => .ok verdict
  | none => .error (.unknownVerdict v)

theorem ofJson_label (v : Verdict) : ofJson (.str v.label) = .ok v := by
  cases v <;> rfl

-- The verdict on a column of results; none if there are no results.
def ofResults? (results : List Bool) : Option Verdict :=
  if results.isEmpty then none
  else if results.all id then some tautology
  else if results.any id then some contingency
  else some contradiction

end Verdict

-- The verdict on a table; none if it has no rows.
def classify? (rows : List Row) : Option Verdict :=
  Verdict.ofResults? (rows.map (·.result))

def emptyTableMessage : String :=
  "No se puede clasificar una tabla de verdad vacía"

namespace Row

-- How many different rows there are; rows are the same if they have the same symbols in the same
-- order, with the same values, and the same result.
def distinct (rows : List Row) : Nat :=
  (Std.HashSet.ofList rows).size

-- Whether two rows give the same symbols the same values, in whatever order, and have the same
-- result.
def agrees (r s : Row) : Bool :=
  r.result = s.result && r.assignment.length = s.assignment.length &&
    r.assignment.all fun (k, b) => lookup k s.assignment = some b

def toJson (r : Row) : Json :=
  .obj [("assignment", .obj (r.assignment.map fun (k, b) => (k, .bool b))),
    ("result", .bool r.result)]

-- The row that a document stands for; any value counts as true or false.
def ofJson (v : Json) : Except DocumentError Row := do
  match ← v.field "assignment" with
  | .obj fields =>
    return ⟨fields.map fun (k, v) => (k, v.truthy), (← v.field "result").truthy⟩
  | _ => .error .notAnObject

end Row

end Enunciado

import Enunciado.Json.Literal

namespace Enunciado

inductive Number
  | bool (b : Bool)
  | int (n : Int)
  | float (x : Binary64)
deriving DecidableEq

namespace Number

def toJson : Number → Json
  | bool b => .bool b
  | int n => .int n
  | float x => .float x

def ofJson? : Json → Option Number
  | .bool b => some (bool b)
  | .int n => some (int n)
  | .float x => some (float x)
  | _ => none

theorem ofJson?_toJson (n : Number) : ofJson? n.toJson = some n := by
  cases n <;> rfl

-- The place of a number on the line, in the smallest units of floating-point numbers.
inductive Place
  | below
  | at (units : Int)
  | above

def Place.lt : Place → Place → Bool
  | below, below => false
  | below, _ => true
  | .at m, .at n => m < n
  | .at _, above => true
  | _, _ => false

def ofInt (n : Int) : Place :=
  .at (n * Magnitude.unitsPerOne)

-- The place of a number; none for what is no number.
def place? : Number → Option Place
  | bool b => some (ofInt (if b then 1 else 0))
  | int n => some (ofInt n)
  | float x =>
    if x.isNotANumber then none
    else if x.isInfinite then some (if x.negative then .below else .above)
    else some (.at x.units)

def lt (m n : Number) : Bool :=
  match m.place?, n.place? with
  | some p, some q => p.lt q
  | _, _ => false

def le (m n : Number) : Bool :=
  match m.place?, n.place? with
  | some p, some q => !q.lt p
  | _, _ => false

-- The whole number, if it is given as one.
def integer? : Number → Option Int
  | bool b => some (if b then 1 else 0)
  | int n => some n
  | float _ => none

-- The number as a message shows it; none if it has too many digits.
def display? (n : Number) : Option String :=
  n.toJson.display?.map String.ofList

end Number

end Enunciado

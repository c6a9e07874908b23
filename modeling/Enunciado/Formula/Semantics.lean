import Enunciado.Formula.Basic
import Enunciado.Json.Literal

namespace Enunciado

inductive EvaluationError
  | unassigned (name : String)
  | unknownUnary (op : Operator)
  | unknownBinary (op : Operator)
  -- A name that no assignment can have.
  | notAKey
  -- A name without a value can not be told, since it is a whole number with too many digits.
  | tooManyDigits
deriving DecidableEq

namespace EvaluationError

def message? : EvaluationError → Option String
  | unassigned name => some s!"La proposición '{name}' no tiene valor asignado"
  | unknownUnary op => some s!"Operador unario desconocido: Operator.{op.name}"
  | unknownBinary op => some s!"Operador binario desconocido: Operator.{op.name}"
  | notAKey => none
  | tooManyDigits => some Json.tooManyDigitsMessage

end EvaluationError

abbrev Assignment := List (String × Bool)

abbrev Environment (α : Type) := α → Except EvaluationError Bool

namespace Assignment

-- The value of a name; a name without one is false, or an error if `strict`.
def environment (strict : Bool) (a : Assignment) : Environment String := fun name =>
  match lookup name a with
  | some b => .ok b
  | none => if strict then .error (.unassigned name) else .ok false

-- The value of any JSON value as a name; only a text can have one.
def jsonEnvironment (strict : Bool) (a : Assignment) : Environment Json
  | .str name => a.environment strict name
  | .arr _ | .obj _ => .error .notAKey
  | name =>
    if strict then .error ((name.display?.map (.unassigned ∘ String.ofList)).getD .tooManyDigits)
    else .ok false

end Assignment

def Operator.truth? : Operator → Option (Bool → Bool → Bool)
  | and => some fun a b => a && b
  | or => some fun a b => a || b
  | implies => some fun a b => !a || b
  | iff => some fun a b => a == b
  | not => none

-- The truth value of a formula. Both sides of a connective are evaluated, the left one first.
def Formula.evaluate {α : Type} (env : Environment α) : Formula α → Except EvaluationError Bool
  | var name => env name
  | const b => .ok b
  | unary op x => if op = .not then (x.evaluate env).map (!·) else .error (.unknownUnary op)
  | binary op x y =>
    match x.evaluate env with
    | .error e => .error e
    | .ok a =>
      match y.evaluate env with
      | .error e => .error e
      | .ok b => match op.truth? with
        | some f => .ok (f a b)
        | none => .error (.unknownBinary op)

end Enunciado

import Enunciado.Json.Basic
import Enunciado.Binary64.Decimal
import Enunciado.Text.Quoted

namespace Enunciado

def messageWords : SpecialWords := ⟨"inf".toList, "nan".toList⟩

def joinWith (separator : List Char) : List (List Char) → List Char
  | [] => []
  | [s] => s
  | s :: rest => s ++ separator ++ joinWith separator rest

namespace Json

section Long

-- The most digits with which a whole number may be written.
def maxDigits : Nat := 4300

def isLong : Json → Bool
  | int n => Nat.pow 10 maxDigits ≤ n.natAbs
  | _ => false

mutual

-- Whether a whole number somewhere in the value has too many digits.
def hasLong : Json → Bool
  | arr items => anyLong items
  | obj fields => anyLongField fields
  | v => v.isLong

def anyLong : List Json → Bool
  | [] => false
  | v :: vs => v.hasLong || anyLong vs

def anyLongField : List (String × Json) → Bool
  | [] => false
  | (_, v) :: fields => v.hasLong || anyLongField fields

end

-- What is said where a whole number with too many digits should be written.
def tooManyDigitsMessage : String :=
  s!"Exceeds the limit ({maxDigits} digits) for integer string conversion; " ++
    "use sys.set_int_max_str_digits() to increase the limit"

end Long

section Writing

mutual

-- The value as a message shows it, texts in quotes; none if a whole number in it has too many
-- digits.
def literal? : Json → Option (List Char)
  | null => some "None".toList
  | bool true => some "True".toList
  | bool false => some "False".toList
  | int n => if (int n).isLong then none else some (toString n).toList
  | float x => some (x.decimal messageWords)
  | str s => some (Text.quoted s.toList)
  | arr items => (literalItems? items).map fun vs => '[' :: joinWith [',', ' '] vs ++ [']']
  | obj fields => (literalFields? fields).map fun vs => '\x7b' :: joinWith [',', ' '] vs ++ ['\x7d']

def literalItems? : List Json → Option (List (List Char))
  | [] => some []
  | v :: vs => do return (← literal? v) :: (← literalItems? vs)

def literalFields? : List (String × Json) → Option (List (List Char))
  | [] => some []
  | (k, v) :: fields => do
    return (Text.quoted k.toList ++ [':', ' '] ++ (← literal? v)) :: (← literalFields? fields)

end

-- The value as a message shows it, a text without quotes.
def display? : Json → Option (List Char)
  | str s => some s.toList
  | v => literal? v

-- A message that shows the value; where it can not be written, the message tells of that instead.
def inMessage (v : Json) (message : String → String) : String :=
  match v.literal? with
  | some s => message (String.ofList s)
  | none => tooManyDigitsMessage

end Writing

section Limit

mutual

-- A value can be written unless it has a whole number that is too long.
theorem literal?_eq_none_iff : ∀ v : Json, v.literal? = none ↔ v.hasLong
  | null | float _ | str _ => by simp [literal?, hasLong, isLong]
  | bool b => by cases b <;> simp [literal?, hasLong, isLong]
  | int n => by simp [literal?, hasLong]
  | arr items => by rw [literal?, hasLong, Option.map_eq_none_iff, literalItems?_eq_none_iff]
  | obj fields => by rw [literal?, hasLong, Option.map_eq_none_iff, literalFields?_eq_none_iff]

theorem literalItems?_eq_none_iff : ∀ items : List Json, literalItems? items = none ↔ anyLong items
  | [] => by simp [literalItems?, anyLong]
  | v :: vs => by
    have hv := literal?_eq_none_iff v
    have hvs := literalItems?_eq_none_iff vs
    cases h : literal? v <;> cases hs : literalItems? vs <;>
      simp_all [literalItems?, anyLong]

theorem literalFields?_eq_none_iff :
    ∀ fields : List (String × Json), literalFields? fields = none ↔ anyLongField fields
  | [] => by simp [literalFields?, anyLongField]
  | (k, v) :: fields => by
    have hv := literal?_eq_none_iff v
    have hfields := literalFields?_eq_none_iff fields
    cases h : literal? v <;> cases hs : literalFields? fields <;>
      simp_all [literalFields?, anyLongField]

end

theorem display?_eq_none_iff (v : Json) : v.display? = none ↔ v.hasLong := by
  cases v
  case str => simp [display?, hasLong, isLong]
  all_goals exact literal?_eq_none_iff _

end Limit

def kindName : Json → String
  | null => "NoneType"
  | bool _ => "bool"
  | int _ => "int"
  | float _ => "float"
  | str _ => "str"
  | arr _ => "list"
  | obj _ => "dict"

end Json

end Enunciado

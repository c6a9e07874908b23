import Enunciado.Json.Printer
import Enunciado.Json.Reader

namespace Enunciado.Json

mutual

-- The value as it is rendered, up to the first whole number with too many digits. An item is
-- written together with the separator before it, but the value of a field without its key.
def renderUpTo (depth : Nat) : Json → List Char → List Char
  | arr (v :: vs), rest =>
    if v.isLong then []
    else '[' :: newline (depth + 1) ++
      renderUpTo (depth + 1) v (itemsUpTo (depth + 1) vs (newline depth ++ ']' :: rest))
  | obj ((k, v) :: fields), rest =>
    '\x7b' :: newline (depth + 1) ++ (renderString k ++ ':' :: ' ' ::
      renderUpTo (depth + 1) v (fieldsUpTo (depth + 1) fields (newline depth ++ '\x7d' :: rest)))
  | v, rest => if v.isLong then [] else render depth v rest

def itemsUpTo (depth : Nat) : List Json → List Char → List Char
  | [], rest => rest
  | v :: vs, rest =>
    if v.isLong then []
    else ',' :: newline depth ++ renderUpTo depth v (itemsUpTo depth vs rest)

def fieldsUpTo (depth : Nat) : List (String × Json) → List Char → List Char
  | [], rest => rest
  | (k, v) :: fields, rest =>
    ',' :: newline depth ++ (renderString k ++ ':' :: ' ' ::
      renderUpTo depth v (fieldsUpTo depth fields rest))

end

-- What can be written of the value.
def prettyUpTo (v : Json) : String :=
  String.ofList (renderUpTo 0 v [])

end Enunciado.Json

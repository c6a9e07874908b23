import Enunciado.Json.Basic

namespace Enunciado

-- What a program shows: lines with markup, plain lines, and tables.
inductive Display
  | markup (line : String)
  | plain (text : String)
  | table (title : String) (columns : List String) (rows : List (List String))
deriving DecidableEq, Repr

-- What shows them. Only what a program asks of it is known here, not how anything looks.
structure Console where
  -- The text, with nothing in it that would be taken for markup.
  escape : String → String
  -- The cell of a table that shows a value; none for a value that can not be shown.
  cell? : Json → Option String
  cell?_text : ∀ s, cell? (.str s) = some s
  cell?_null : cell? .null = some ""
  cell?_eq_none : ∀ v, v ≠ .null → (∀ s, v ≠ .str s) → cell? v = none

end Enunciado

import Enunciado.TruthTable.Basic

namespace Enunciado

def truthLetter (b : Bool) : Char :=
  if b then 'V' else 'F'

def resultLetters (rows : List Row) : String :=
  String.ofList (rows.map (truthLetter ·.result))

def dashes (n : Nat) : List Char :=
  List.replicate n '-'

-- The line of a row, with its result below the middle of the header; an error tells the symbol
-- that the row does not have.
def rowLine (symbols : List String) (padding : Nat) (r : Row) : Except String (List Char) := do
  let cells ← symbols.mapM fun s =>
    match lookup s r.assignment with
    | some b => Except.ok [truthLetter b]
    | none => .error s
  return joinWith [' ', '|', ' '] cells ++ [' ', '|', ' '] ++ List.replicate padding ' ' ++
    [truthLetter r.result]

-- The table as text; an error tells a symbol that some row does not have.
def layout (rows : List Row) (symbols : List String) (header : String) : Except String String := do
  let header := header.toList
  let head := joinWith [' ', '|', ' '] (symbols.map String.toList) ++ [' ', '|', ' '] ++ header
  let rule := joinWith ['-', '|', '-'] (symbols.map fun s => dashes s.length) ++ ['-', '|', '-'] ++
    dashes header.length
  let lines ← rows.mapM (rowLine symbols (header.length / 2))
  return String.ofList (joinWith ['\n'] (head :: rule :: lines))

end Enunciado

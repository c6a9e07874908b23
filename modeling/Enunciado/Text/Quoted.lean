import Enunciado.Text.Printable

namespace Enunciado.Text

-- The last `width` hexadecimal digits of a number.
def hexDigits : Nat → Nat → List Char
  | 0, _ => []
  | width + 1, n => hexDigits width (n / 16) ++ [Nat.digitChar (n % 16)]

def quoteFor (s : List Char) : Char :=
  if s.contains '\'' && !s.contains '"' then '"' else '\''

-- How a character is written between two quotes `q`.
def escapeChar (q c : Char) : List Char :=
  if c = q || c = '\\' then ['\\', c]
  else if c = '\t' then ['\\', 't']
  else if c = '\n' then ['\\', 'n']
  else if c = '\r' then ['\\', 'r']
  else if isPrintable c then [c]
  else if c.toNat < 0x100 then '\\' :: 'x' :: hexDigits 2 c.toNat
  else if c.toNat < 0x10000 then '\\' :: 'u' :: hexDigits 4 c.toNat
  else '\\' :: 'U' :: hexDigits 8 c.toNat

def quoted (s : List Char) : List Char :=
  let q := quoteFor s
  q :: s.flatMap (escapeChar q) ++ [q]

def inQuotes (s : String) : String :=
  String.ofList (quoted s.toList)

end Enunciado.Text

namespace Enunciado.Text

-- A closed range of code points: its first and its last.
abbrev CodeRange := Nat × Nat

-- Whether one of the ranges, given in increasing order, holds the code point.
def covers : List CodeRange → Nat → Bool
  | [], _ => false
  | (first, last) :: ranges, n => if n ≤ last then decide (first ≤ n) else covers ranges n

end Enunciado.Text

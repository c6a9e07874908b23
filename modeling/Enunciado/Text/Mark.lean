import Enunciado.Text.MarkTable

namespace Enunciado.Text

-- The combining class of a character; 0 for the characters that are no combining marks.
def combiningClass (c : Char) : Nat :=
  go combiningClasses
where
  go : List (CodeRange × Nat) → Nat
    | [] => 0
    | ((first, last), k) :: rest =>
      if c.toNat ≤ last then (if first ≤ c.toNat then k else 0) else go rest

-- The jamo of a Hangul syllable, given by its distance from the first syllable.
def jamo (n : Nat) : List Nat :=
  let lead := 0x1100 + n / 588
  let vowel := 0x1161 + n % 588 / 28
  if n % 28 = 0 then [lead, vowel] else [lead, vowel, 0x11A7 + n % 28]

def decomposeChar (c : Char) : List Char :=
  let n := c.toNat
  if 0xAC00 ≤ n && n ≤ 0xD7A3 then (jamo (n - 0xAC00)).map Char.ofNat
  else go n decompositions
where
  go (n : Nat) : List (Nat × List Nat) → List Char
    | [] => [c]
    | (m, parts) :: rest =>
      if n < m then [c] else if n = m then parts.map Char.ofNat else go n rest

-- The text with `c` put before it, but after the marks of a lower class at its start.
def placeMark (c : Char) : List Char → List Char
  | [] => [c]
  | d :: s =>
    if combiningClass d ≠ 0 ∧ combiningClass d < combiningClass c then d :: placeMark c s
    else c :: d :: s

-- The canonical decomposition of a text: every run of marks is in the order of their classes, and
-- marks of one class keep their order.
def decompose (s : List Char) : List Char :=
  (s.flatMap decomposeChar).foldr placeMark []

def stripMarks (s : List Char) : List Char :=
  (decompose s).filter (combiningClass · = 0)

end Enunciado.Text

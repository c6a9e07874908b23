import Enunciado.Text.CodeRange

namespace Enunciado.Text

-- The blank characters of all scripts: spaces of any width that may be seen or broken at, line
-- and paragraph ends, tabs, and the four information separators.
def blanks : List CodeRange := [
  (0x9, 0xD), (0x1C, 0x20), (0x85, 0x85), (0xA0, 0xA0), (0x1680, 0x1680), (0x2000, 0x200A),
  (0x2028, 0x2029), (0x202F, 0x202F), (0x205F, 0x205F), (0x3000, 0x3000)]

def isBlank (c : Char) : Bool :=
  covers blanks c.toNat

-- The text without the characters at its end that satisfy `p`.
def dropEnd (p : Char → Bool) (s : List Char) : List Char :=
  (s.reverse.dropWhile p).reverse

def trim (s : List Char) : List Char :=
  dropEnd isBlank (s.dropWhile isBlank)

def isVoid (s : List Char) : Bool :=
  s.all isBlank

-- Each run of characters that satisfy `p`, written as one space.
def squeeze (p : Char → Bool) (s : List Char) : List Char :=
  go false s
where
  go (inRun : Bool) : List Char → List Char
    | [] => []
    | c :: s => if p c then (if inRun then go true s else ' ' :: go true s) else c :: go false s

theorem mem_of_mem_trim {c : Char} {s : List Char} (h : c ∈ trim s) : c ∈ s := by
  simp only [trim, dropEnd, List.mem_reverse] at h
  exact (List.dropWhile_sublist _).mem (List.mem_reverse.1 ((List.dropWhile_sublist _).mem h))

end Enunciado.Text

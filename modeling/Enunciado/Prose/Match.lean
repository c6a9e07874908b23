import Enunciado.Binary64.Basic
import Enunciado.Proposition
import Enunciado.Prose.Normal

namespace Enunciado.Prose

-- The least score with which a proposition is taken.
def threshold : Magnitude := .ofRatio 3 10

-- How many words of a clause raise a score by the whole of itself.
def boostLength : Nat := 10

-- How well a clause, given by its words, agrees with a meaning: the part of the words of the
-- meaning that it has, and that part again for every ten words.
def score (clause : List (List Char)) (meaning : List Char) : Magnitude :=
  let wanted := foldedWords meaning
  let found := wanted.countP (clause.contains ·)
  if found = 0 then ⟨0⟩
  else
    let base := Magnitude.ofRatio found wanted.length
    base.add ((base.times clause.length).divide boostLength)

-- The first item with the greatest score, if that is above `best`.
def firstBest {α : Type} (score : α → Magnitude) (best : Option α × Magnitude) :
    List α → Option α × Magnitude
  | [] => best
  | x :: xs => firstBest score (if best.2 < score x then (some x, score x) else best) xs

-- The proposition that a clause speaks of, if any agrees well enough.
def bestMatch {σ : Type} (ps : List (Proposition σ String)) (clause : List Char) :
    Option (Proposition σ String) :=
  let ws := foldedWords clause
  let (best, score) := firstBest (fun p => score ws p.meaning.toList) (none, ⟨0⟩) ps
  if threshold ≤ score then best else none

end Enunciado.Prose

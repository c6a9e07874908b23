import Enunciado.Text.Blank
import Enunciado.Text.Word

namespace Enunciado.Prose

open Text

-- Whether a text, given backwards, ends in the word "no".
def endsInNo : List Char → Bool
  | 'o' :: 'n' :: s => !startsInWord s
  | _ => false

-- The pieces between the periods that end a sentence; `before` is the piece that has begun,
-- backwards.
def pieces (before : List Char) : List Char → List (List Char)
  | [] => [before.reverse]
  | c :: s =>
    if c = '.' && !endsInNo before then before.reverse :: pieces [] s
    else pieces (c :: before) s

-- The sentences of a text, without blanks around them and without the empty ones.
def sentences (s : List Char) : List (List Char) :=
  ((pieces [] s).map trim).filter (· ≠ [])

end Enunciado.Prose

import Enunciado.Text.Alphanumeric

namespace Enunciado.Text

def isWordChar (c : Char) : Bool :=
  isAlphanumeric c || c == '_'

-- Whether the text begins with a character that may stand in a word.
def startsInWord : List Char → Bool
  | [] => false
  | c :: _ => isWordChar c

-- The maximal runs of characters that satisfy `p`, in order.
def runs (p : Char → Bool) : List Char → List (List Char)
  | [] => []
  | c :: s =>
    if p c then
      match s, runs p s with
      | d :: _, r :: rs => if p d then (c :: r) :: rs else [c] :: r :: rs
      | _, rs => [c] :: rs
    else
      runs p s

-- The words of a text; what stands between them is dropped.
def words (s : List Char) : List (List Char) :=
  runs isWordChar s

end Enunciado.Text

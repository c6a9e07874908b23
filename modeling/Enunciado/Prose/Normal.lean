import Enunciado.Text.Blank
import Enunciado.Text.Lowercase
import Enunciado.Text.Mark
import Enunciado.Text.Word

namespace Enunciado.Prose

open Text

-- Lower case, with single spaces between what blanks part.
def normalize (s : List Char) : List Char :=
  trim (squeeze isBlank (lowercase s))

-- Every `vowel` + "rá" that ends a word, written as `short`.
def shortenFuture (vowel short : Char) : List Char → List Char
  | a :: b :: c :: s =>
    if a = vowel ∧ b = 'r' ∧ c = 'á' ∧ startsInWord s = false then
      short :: shortenFuture vowel short s
    else a :: shortenFuture vowel short (b :: c :: s)
  | s => s

-- The future tense of a verb, brought near its present: "vivirá" becomes "vive", and "mojará"
-- becomes "moja".
def collapseFuture (s : List Char) : List Char :=
  shortenFuture 'a' 'a' (shortenFuture 'i' 'e' s)

-- Lower case without futures and diacritics. The futures are told by their accent, so that they
-- go first.
def fold (s : List Char) : List Char :=
  stripMarks (collapseFuture (lowercase s))

def foldedWords (s : List Char) : List (List Char) :=
  words (fold s)

end Enunciado.Prose

import Enunciado.Formula.Basic
import Enunciado.Json.Literal
import Enunciado.Text.Blank
import Enunciado.Text.Word

namespace Enunciado

open Text

-- The operators and constants, each with the words for it, in the order they are replaced in.
def connectives : List (Char × List Char) := [
  ('∧', " y ".toList),
  ('∨', " o ".toList),
  ('¬', "no ".toList),
  ('→', " implica ".toList),
  ('↔', " si y solo si ".toList),
  ('⊤', " verdadero ".toList),
  ('⊥', " falso ".toList)]

-- The text with a word in place of each `glyph`.
def replace (glyph : Char) (word s : List Char) : List Char :=
  s.flatMap fun c => if c = glyph then word else [c]

-- The small letters in a text that are words of their own; `inWord` tells whether a character of a
-- word goes before the text.
def loneLetters (inWord : Bool) : List Char → List Char
  | [] => []
  | c :: s =>
    let others := loneLetters (isWordChar c) s
    if 'a' ≤ c && c ≤ 'z' && !inWord && !startsInWord s then c :: others else others

-- The text with each small letter that is a word of its own replaced by its meaning in quotes, if
-- it has one; `inWord` tells whether a character of a word goes before the text.
def nameMeanings (meaning? : Char → Option (List Char)) (inWord : Bool) : List Char → List Char
  | [] => []
  | c :: s =>
    let alone := 'a' ≤ c && c ≤ 'z' && !inWord && !startsInWord s
    let here := match alone, meaning? c with
      | true, some m => '"' :: m ++ ['"']
      | _, _ => [c]
    here ++ nameMeanings meaning? (isWordChar c) s

def paraphrase (meaning? : Char → Option (List Char)) (expression : List Char) : List Char :=
  let named := nameMeanings meaning? false expression
  trim (squeeze (· = ' ') (connectives.foldl (fun s (glyph, word) => replace glyph word s) named))

-- The meanings of letters, from the meanings of symbols.
def meaningOf (meanings : List (String × List Char)) (c : Char) : Option (List Char) :=
  lookup (String.singleton c) meanings

end Enunciado

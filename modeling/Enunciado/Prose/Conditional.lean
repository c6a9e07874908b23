import Enunciado.Text.Blank
import Enunciado.Text.Word

namespace Enunciado.Prose

open Text

-- The text after blanks, at most one comma, and blanks.
def skipComma (s : List Char) : List Char :=
  match s.dropWhile isBlank with
  | ',' :: s => s.dropWhile isBlank
  | s => s

-- What follows a word that begins the text and ends where the word does.
def afterKeyword? (word s : List Char) : Option (List Char) :=
  let r := s.drop word.length
  if word.isPrefixOf s && !startsInWord r then some r else none

def startsBlank : List Char → Bool
  | [] => false
  | c :: _ => isBlank c

-- The characters up to a comma or a period.
def phrase (s : List Char) : List Char :=
  s.takeWhile fun c => c ≠ ',' && c ≠ '.'

-- The consequent, given what follows "entonces": the phrase after blanks and a comma. If there is
-- none, blanks make an empty consequent.
def consequent? (s : List Char) : Option (List Char) :=
  let r := s.dropWhile isBlank
  let (blanksBefore, r) := match r with
    | ',' :: t => (startsBlank t || startsBlank s, t.dropWhile isBlank)
    | r => (startsBlank s, r)
  if phrase r ≠ [] then some (trim (phrase r))
  else if blanksBefore then some []
  else none

-- The consequent, given what follows the antecedent; `inWord` tells whether the antecedent ends in
-- a character of a word, which must not run on into "entonces".
def conclusion? (inWord : Bool) (s : List Char) : Option (List Char) :=
  let parted := match s with
    | [] => true
    | c :: _ => isBlank c || c = ',' || !inWord
  if parted then (afterKeyword? "entonces".toList (skipComma s)).bind consequent? else none

-- The shortest antecedent that can be continued, and the consequent; `taken` is the beginning of
-- the antecedent, backwards.
def extend? (taken : List Char) (s : List Char) : Option (List Char × List Char) :=
  match conclusion? (startsInWord taken) s with
  | some c => some (trim taken.reverse, c)
  | none =>
    match s with
    | [] => none
    | c :: s => if c = ',' then none else extend? (c :: taken) s

-- Antecedent and consequent, given what follows "si". An antecedent may be empty only where two
-- blanks come before "entonces".
def afterSi? (s : List Char) : Option (List Char × List Char) :=
  match s with
  | [] => none
  | c :: rest =>
    if isBlank c then
      let long := match s.dropWhile isBlank with
        | [] => none
        | c :: r => if c = ',' then none else extend? [c] r
      match long with
      | some p => some p
      | none =>
        if startsBlank rest then (conclusion? false (s.dropWhile isBlank)).map ([], ·) else none
    else none

-- Antecedent and consequent of a conditional in a text; `inWord` tells whether a character of a
-- word goes before the text.
def conditionalFrom? (inWord : Bool) : List Char → Option (List Char × List Char)
  | [] => none
  | c :: s =>
    let here := match c, s with
      | 's', 'i' :: r => if inWord then none else afterSi? r
      | _, _ => none
    match here with
    | some p => some p
    | none => conditionalFrom? (isWordChar c) s

def conditional? (s : List Char) : Option (List Char × List Char) :=
  conditionalFrom? false s

end Enunciado.Prose

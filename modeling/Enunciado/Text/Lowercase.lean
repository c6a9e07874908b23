import Enunciado.Text.CaseTable

namespace Enunciado.Text

def CaseRun.lower? (r : CaseRun) (n : Nat) : Option Nat :=
  if r.first ≤ n && n ≤ r.last && (n - r.first) % r.step == 0 then
    some (r.target + (n - r.first))
  else
    none

def isCased (c : Char) : Bool :=
  covers cased c.toNat

def isCaseIgnorable (c : Char) : Bool :=
  covers caseIgnorable c.toNat

-- The lower-case form of a character, wherever it stands.
def lowerChar (c : Char) : List Char :=
  if c = 'İ' then ['i', '\u0307']
  else match caseRuns.findSome? (·.lower? c.toNat) with
    | some n => [Char.ofNat n]
    | none => [c]

def meetsCase (s : List Char) : Bool :=
  match s.dropWhile isCaseIgnorable with
  | [] => false
  | c :: _ => isCased c

-- The form of a capital sigma between `before`, read backwards, and `after`: final when a letter
-- goes before it and none comes after it in the same word.
def lowerSigma (before after : List Char) : Char :=
  if meetsCase before && !meetsCase after then 'ς' else 'σ'

def lowercase (s : List Char) : List Char :=
  go [] s
where
  go (before : List Char) : List Char → List Char
    | [] => []
    | c :: after =>
      (if c = 'Σ' then [lowerSigma before after] else lowerChar c) ++ go (c :: before) after

end Enunciado.Text

import Enunciado.Json.Number
import Enunciado.Json.Printer
import Enunciado.Json.Reader

namespace Enunciado

-- The limits of an analysis. A number may be given in any of the forms that JSON has for it, and
-- keeps that form.
structure Settings where
  maxPropositions : Number
  minPropositions : Number
  minTextLength : Number
  maxTextLength : Number
  historyMaxEntries : Number
  -- Whether an expression may use declared propositions only; any value counts as yes or no.
  strictVariables : Json
deriving DecidableEq

inductive SettingsError
  | unknownField (name : String)
  -- A limit is compared that is no number.
  | incomparable (relation : String) (left right : Json)
  | minPropositions (value : Number)
  | propositionRange (max min : Number)
  | minTextLength (value : Number)
  | textRange (max min : Number)
  | historySize (value : Number)
  -- Something other than an object is given for the settings.
  | notAnObject (value : Json)
deriving DecidableEq

-- Symbols are letters, so that there can be no more propositions than letters.
def alphabetSize : Nat := 26

namespace SettingsError

-- Whether the error is one of the kind of a value, and not of the value.
def isOfKind : SettingsError → Bool
  | unknownField _ | incomparable _ _ _ | notAnObject _ => true
  | _ => false

-- The words for the error; none if a limit that it shows has too many digits.
def words? : SettingsError → Option String
  | unknownField name =>
    let kind := if name = "self" then "multiple values for" else "an unexpected keyword"
    some s!"AnalyzerConfig.__init__() got {kind} argument '{name}'"
  | incomparable relation left right => some <|
    s!"'{relation}' not supported between instances of '{left.kindName}' and '{right.kindName}'"
  | minPropositions n =>
    n.display?.map fun n => s!"min_propositions debe ser positivo, recibí {n}"
  | propositionRange max min => do
    let max ← max.display?
    let min ← min.display?
    return s!"max_propositions ({max}) debe estar entre min_propositions ({min}) y {alphabetSize}"
  | minTextLength n =>
    n.display?.map fun n => s!"min_text_length debe ser positivo, recibí {n}"
  | textRange max min => do
    let max ← max.display?
    let min ← min.display?
    return s!"max_text_length ({max}) no puede ser menor que min_text_length ({min})"
  | historySize n =>
    n.display?.map fun n => s!"history_max_entries debe ser positivo, recibí {n}"
  | notAnObject v => some <|
    "proplogic.analysis.config.AnalyzerConfig() argument after ** must be a mapping, not " ++
      v.kindName

-- Without words of its own, an error of the value tells of the digits instead.
def message (e : SettingsError) : String :=
  e.words?.getD Json.tooManyDigitsMessage

end SettingsError

namespace Settings

-- The settings before anything is set, by name and in the order in which they are written.
def defaults : List (String × Json) := [
  ("max_propositions", .int 20), ("min_propositions", .int 2), ("min_text_length", .int 10),
  ("max_text_length", .int 5000), ("history_max_entries", .int 10),
  ("strict_variables", .bool false)]

def standard : Settings :=
  ⟨.int 20, .int 2, .int 10, .int 5000, .int 10, .bool false⟩

def toFields (s : Settings) : List (String × Json) := [
  ("max_propositions", s.maxPropositions.toJson), ("min_propositions", s.minPropositions.toJson),
  ("min_text_length", s.minTextLength.toJson), ("max_text_length", s.maxTextLength.toJson),
  ("history_max_entries", s.historyMaxEntries.toJson), ("strict_variables", s.strictVariables)]

def toJson (s : Settings) : Json :=
  .obj s.toFields

-- Two values as numbers, which they have to be if a relation between them is asked for.
def bothNumbers (relation : String) (m n : Json) : Except SettingsError (Number × Number) :=
  match Number.ofJson? m, Number.ofJson? n with
  | some a, some b => .ok (a, b)
  | _, _ => .error (.incomparable relation m n)

-- The settings with these values, if they are numbers within each other's bounds.
def check (maxPropositions minPropositions minTextLength maxTextLength historyMaxEntries : Json)
    (strictVariables : Json) : Except SettingsError Settings := do
  let (minP, one) ← bothNumbers "<" minPropositions (.int 1)
  if minP.lt one then throw (.minPropositions minP)
  let (minP, maxP) ← bothNumbers "<=" minPropositions maxPropositions
  if !(minP.le maxP && maxP.le (.int alphabetSize)) then throw (.propositionRange maxP minP)
  let (minT, one) ← bothNumbers "<" minTextLength (.int 1)
  if minT.lt one then throw (.minTextLength minT)
  let (maxT, minT) ← bothNumbers "<" maxTextLength minTextLength
  if maxT.lt minT then throw (.textRange maxT minT)
  let (size, one) ← bothNumbers "<" historyMaxEntries (.int 1)
  if size.lt one then throw (.historySize size)
  return ⟨maxP, minP, minT, maxT, size, strictVariables⟩

-- The settings that the fields set, the others being the standard ones.
def ofFields (fields : List (String × Json)) : Except SettingsError Settings :=
  match fields.find? fun f => !defaults.any (·.1 = f.1) with
  | some (name, _) => .error (.unknownField name)
  | none =>
    let value name := (lookup name (fields ++ defaults)).getD .null
    check (value "max_propositions") (value "min_propositions") (value "min_text_length")
      (value "max_text_length") (value "history_max_entries") (value "strict_variables")

def ofJson : Json → Except SettingsError Settings
  | .obj fields => ofFields fields
  | v => .error (.notAnObject v)

end Settings

end Enunciado

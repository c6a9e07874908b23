import Enunciado.Analysis.Paraphrase
import Enunciado.Formula.Printer
import Enunciado.Json.Number
import Enunciado.Json.Printer
import Enunciado.Json.Reader
import Enunciado.Proposition
import Enunciado.TruthTable.Layout

namespace Enunciado

-- What an analysis has found out; `σ` is the type of its texts.
structure Report (σ : Type) where
  text : σ
  propositions : List (Proposition σ σ)
  expression : σ
  verdict : Verdict
  rows : List Row
  formula : Formula σ
  timestamp : σ
deriving DecidableEq

namespace Json

-- Equal keys of a mapping are written alike: numbers of the same value as whole numbers.
def keyForm : Json → Json
  | bool b => int (if b then 1 else 0)
  | float x =>
    if x.isNotANumber || x.isInfinite || x.units % Magnitude.unitsPerOne ≠ 0 then float x
    else int (x.units / Magnitude.unitsPerOne)
  | v => v

-- Values as the keys of a mapping; of equal ones the first stays. None if one cannot be a key.
def distinctKeys? (vs : List Json) : Option (List Json) :=
  if vs.all isKey then
    some (vs.foldl add [])
  else none
where
  add (keys : List Json) (v : Json) : List Json :=
    if keys.any (·.keyForm = v.keyForm) then keys else keys ++ [v]

-- Whether `v` goes before `w` when values are sorted; none if they cannot be compared.
def before? : Json → Json → Option Bool
  | str s, str t => some (s < t)
  | v, w => match Number.ofJson? v, Number.ofJson? w with
    | some a, some b => some (a.lt b)
    | _, _ => none

-- The values with `v` put where it belongs.
def insertSorted (v : Json) : List Json → List Json
  | [] => [v]
  | w :: ws => if before? w v = some true then w :: insertSorted v ws else v :: w :: ws

-- The values in increasing order; none if they are not all texts or all numbers.
def sorted? (vs : List Json) : Option (List Json) :=
  match vs with
  | [] | [_] => some vs
  | v :: ws =>
    if ws.all fun w => (before? v w).isSome then some (vs.foldr insertSorted []) else none

end Json

namespace Formula

-- The names in a formula, sorted and without repetitions; none if they are not comparable.
def sortedNames? (x : Formula Json) : Option (List Json) :=
  (Json.distinctKeys? x.names).bind Json.sorted?

-- Why a formula can not be written.
inductive WritingError
  -- A negation stands between two formulas.
  | joinsByNot
  -- A name that something is written beside is a whole number with too many digits, or has one.
  | tooManyDigits
deriving DecidableEq

-- Why nothing can be written beside a formula.
def besideError? : Formula Json → Option WritingError
  | var name => if name.hasLong then some .tooManyDigits else none
  | _ => none

-- The first reason why a formula can not be written: its connective comes before its parts, and
-- they come before they are put together.
def writingError? : Formula Json → Option WritingError
  | var _ | const _ => none
  | unary _ x => x.writingError?.or x.besideError?
  | binary op x y =>
    if op = .not then some .joinsByNot
    else ((x.writingError?.or y.writingError?).or x.besideError?).or y.besideError?

-- The formula as an expression. A name that is alone is left as it is.
def expression (x : Formula Json) : Except WritingError Json :=
  match x.writingError?, x with
  | some e, _ => .error e
  | none, .var name => .ok name
  | none, x => .ok (.str (String.ofList (x.render fun name => name.display?.getD [])))

end Formula

inductive WordingError
  -- The expression is no text.
  | notText
  -- A symbol cannot be a key.
  | notKey
  -- The meaning of a letter is a whole number with too many digits, or has one.
  | tooManyDigits
deriving DecidableEq

namespace Report

def map {σ τ : Type} (f : σ → τ) (r : Report σ) : Report τ where
  text := f r.text
  propositions := r.propositions.map (·.map f f)
  expression := f r.expression
  verdict := r.verdict
  rows := r.rows
  formula := r.formula.map f
  timestamp := f r.timestamp

def document (r : Report String) : Report Json :=
  r.map .str

section Document

def propositionJson (p : Declared) : Json :=
  .obj [("symbol", p.symbol), ("meaning", p.meaning)]

def toJson (r : Report Json) : Json := .obj [
  ("originalText", r.text), ("variables", .arr (r.propositions.map propositionJson)),
  ("expression", r.expression), ("expressionType", .str r.verdict.label),
  ("truthTable", .arr (r.rows.map Row.toJson)), ("ast", r.formula.toJson),
  ("timestamp", r.timestamp)]

def propositionOfJson (v : Json) : Except DocumentError Declared := do
  return ⟨← v.field "symbol", ← v.field "meaning"⟩

-- The report that a document holds. Its fields are looked at in the order in which they are
-- written, and other fields are passed over.
def ofJson (v : Json) : Except DocumentError (Report Json) := do
  let text ← v.field "originalText"
  let propositions ← (← (← v.field "variables").items).mapM propositionOfJson
  let expression ← v.field "expression"
  let verdict ← Verdict.ofJson (← v.field "expressionType")
  let rows ← (← (← v.field "truthTable").items).mapM Row.ofJson
  let formula ← Formula.ofJson (← v.field "ast")
  let timestamp ← v.field "timestamp"
  return { text, propositions, expression, verdict, rows, formula, timestamp }

def toText (r : Report Json) : String :=
  r.toJson.pretty

def readsBack (r : Report Json) : Bool :=
  match Json.parse r.toText with
  | .ok v => match ofJson v with
    | .ok r' => r' = r
    | .error _ => false
  | .error _ => false

end Document

section Wording

-- The meanings of the symbols: of a symbol that is repeated, the first place and the last
-- meaning.
def meanings (r : Report Json) : Except WordingError (List (Json × Json)) :=
  if r.propositions.all (·.symbol.isKey) then
    .ok (r.propositions.foldl (fun ms p => setMeaning p ms) [])
  else .error .notKey
where
  setMeaning (p : Declared) : List (Json × Json) → List (Json × Json)
    | [] => [(p.symbol, p.meaning)]
    | (s, m) :: ms =>
      if s.keyForm = p.symbol.keyForm then (s, p.meaning) :: ms else (s, m) :: setMeaning p ms

-- The expression read out. Only the meanings of letters that stand in it have to be written.
def reading (r : Report Json) : Except WordingError String := do
  let ms ← r.meanings
  match r.expression with
  | .str e =>
    let meaning? c := lookup (.str (String.singleton c)) ms
    if (loneLetters false e.toList).any fun c => (meaning? c).any (·.hasLong) then
      throw .tooManyDigits
    return String.ofList (paraphrase (fun c => (meaning? c).bind Json.display?) e.toList)
  | _ => throw .notText

end Wording

end Report

end Enunciado

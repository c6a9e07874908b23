import Enunciado.Analysis.Report
import Enunciado.Analysis.Validation
import Enunciado.Display
import Enunciado.Prose.Relationship

namespace Enunciado

inductive AnalysisError
  | declaration (e : DeclarationError)
  | validation (e : ValidationError)
  | extraction (e : Prose.ExtractionError)
  | badSyntax (e : SyntaxError)
  | evaluation (e : EvaluationError)
  -- A table without rows has no verdict.
  | emptyTable
  -- A row lacks a symbol that heads a column.
  | missingColumn (symbol : String)
  -- What is wrong with the request shows a whole number with too many digits.
  | tooManyDigits
deriving DecidableEq

namespace AnalysisError

-- The words for the error; none for the errors that only tell the kind of a value.
def message? : AnalysisError → Option String
  | declaration (.malformed item) => malformedMessage? item
  | declaration .noItems => none
  | validation e => e.message?
  | extraction e => some e.message
  | badSyntax e => some e.message
  | evaluation e => e.message?
  | emptyTable => some emptyTableMessage
  | missingColumn symbol => some (Text.inQuotes symbol)
  | tooManyDigits => some Json.tooManyDigitsMessage

-- An error that has no words, although it needs them, gives way to the reason why it has none.
def ofDeclaration : DeclarationError → AnalysisError
  | .malformed item =>
    if (malformedMessage? item).isNone then tooManyDigits else declaration (.malformed item)
  | .noItems => declaration .noItems

def ofValidation (e : ValidationError) : AnalysisError :=
  if e.message?.isNone then tooManyDigits else validation e

-- Whether a run tells of the error; others end it where they come up.
def isTold : AnalysisError → Bool
  | declaration .noItems | evaluation .notAKey | evaluation .tooManyDigits | emptyTable
  | missingColumn _ | tooManyDigits => false
  | _ => true

end AnalysisError

namespace Analysis

structure Request where
  text : String
  propositions : List Declared
  -- An expression that is taken instead of the one that the text states.
  expression : Option String

-- The names in a formula that are not declared, sorted.
def undeclared (declared : List String) (x : Formula String) : List String :=
  ((x.names.eraseDups.filter fun name => !declared.contains name).mergeSort fun a b => a ≤ b)

def expressionOf (ps : List Named) (request : Request) : Except AnalysisError String :=
  match request.expression with
  | some e => .ok e
  | none => (Prose.extract ps request.text).mapError .extraction

-- The formula of an expression; under strict settings all of its names must be declared.
def formulaOf (settings : Settings) (declared : List String) (expression : String) :
    Except AnalysisError (Formula String) :=
  match Formula.parse expression with
  | .error e => .error (.badSyntax e)
  | .ok x =>
    if settings.strictVariables.truthy && !(undeclared declared x).isEmpty then
      .error (.validation (.undeclared (undeclared declared x)))
    else .ok x

def validatedLines (request : Request) : List Display :=
  let characters := request.text.length
  let count := request.propositions.length
  [.markup s!"[bold cyan]🔎 Analizando[/] {characters} caracteres, {count} proposiciones"]

def givenLine (expression : String) : Display :=
  .markup s!"   📐 Expresión dada: {expression}"

def expressionLines (request : Request) (expression : String) : List Display :=
  match request.expression with
  | some _ => [givenLine expression]
  | none => [.markup s!"   📐 Expresión extraída: {expression}"]

-- Tables over more propositions than this are not shown in full while the analysis runs.
def maxShownPropositions : Nat := 5

-- The truth table of a formula over the declared symbols and the verdict on it; letters that are
-- not declared count as false.
def tabulate (declared : List String) (x : Formula String) :
    Except AnalysisError (List Row × Verdict) :=
  match truthTable (Assignment.environment false) x declared with
  | .error e => .error (.evaluation e)
  | .ok rows => match classify? rows with
    | some verdict => .ok (rows, verdict)
    | none => .error .emptyTable

-- The lines that tell of a table; the table itself is among them if it is not too large.
def tableLines (declared : List String) (expression : String) (rows : List Row)
    (verdict : Verdict) : Except AnalysisError (List Display) :=
  let count := Display.markup
    s!"   📊 Tabla de verdad: {rows.length} filas, {rows.countP (·.result)} verdaderas"
  let done := Display.markup s!"   [bold green]✅ {verdict.label}[/]"
  if declared.length ≤ maxShownPropositions then
    match layout rows declared expression with
    | .ok text => .ok [count, .plain text, done]
    | .error symbol => .error (.missingColumn symbol)
  else .ok [count, done]

-- The declared propositions of a request, if they and its text are valid.
def validate (settings : Settings) (request : Request) : Except ValidationError (List Named) :=
  match validateText settings request.text with
  | .error e => .error e
  | .ok () => validatePropositions settings request.propositions

-- Analyses a request, telling of each stage as it is reached if `verbose`; `now` becomes the
-- timestamp of the report.
def run (settings : Settings) (request : Request) (now : String) (verbose : Bool) :
    List Display × Except AnalysisError (Report String) :=
  let tell lines := if verbose then lines else []
  match validate settings request with
  | .error e => ([], .error (.ofValidation e))
  | .ok ps =>
    let declared := ps.map (·.symbol)
    let told := tell (validatedLines request)
    match expressionOf ps request with
    | .error e => (told, .error e)
    | .ok expression =>
      let told := told ++ tell (expressionLines request expression)
      match formulaOf settings declared expression with
      | .error e => (told, .error e)
      | .ok x =>
        match tabulate declared x with
        | .error e => (told, .error e)
        | .ok (rows, verdict) =>
          let report := ⟨request.text, ps, expression, verdict, rows, x, now⟩
          if verbose then
            match tableLines declared expression rows verdict with
            | .error e => (told, .error e)
            | .ok lines => (told ++ lines, .ok report)
          else (told, .ok report)

def runDeclared (settings : Settings) (text : String) (declarations : Json)
    (expression : Option String) (now : String) (verbose : Bool) :
    List Display × Except AnalysisError (Report String) :=
  match Proposition.ofJson declarations with
  | .error e => ([], .error (.ofDeclaration e))
  | .ok ps => run settings ⟨text, ps, expression⟩ now verbose

end Analysis

def analyze (settings : Settings) (text : String) (declarations : Json)
    (expression : Option String) (now : String) : Except AnalysisError (Report String) :=
  (Analysis.runDeclared settings text declarations expression now false).2

end Enunciado

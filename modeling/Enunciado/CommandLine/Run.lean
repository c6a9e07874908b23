import Enunciado.Analysis.Basic
import Enunciado.CommandLine.Options
import Enunciado.Display
import Enunciado.History
import Enunciado.Settings.Source

namespace Enunciado.CommandLine

-- Why a run ends without telling of it. What it has shown and written until then stays.
inductive Failure
  | history (e : HistoryError)
  | file (e : FileError)
  -- An analysis has failed in a way that is not told of.
  | analysis (e : AnalysisError)
  -- The limit of a history has too many digits to be shown.
  | tooManyDigits
  -- An expression that is no text cannot be shown.
  | notText
  -- A timestamp that is no text cannot be shown.
  | notShowable (value : Json)
  -- An expression that is given without a value cannot be read.
  | noExpression
deriving DecidableEq

def Failure.message? : Failure → Option String
  | history e => e.message?
  | file e => some e.message
  | analysis e => e.message?
  | tooManyDigits => some Json.tooManyDigitsMessage
  | notText | noExpression => none
  | notShowable v =>
    some s!"unable to render {v.kindName}; a string or other renderable object is required"

inductive Ending
  | exit (code : Nat)
  | failure (e : Failure)
deriving DecidableEq

-- What a run leaves behind.
structure Outcome where
  ending : Ending
  shown : List Display
  -- Whether the help is shown.
  help : Bool
  -- Why the arguments were not understood.
  usage : Option UsageError
  directory : Directory
  -- Whether a report was made.
  reported : Bool

namespace Outcome

def quiet (ending : Ending) (shown : List Display) (d : Directory) : Outcome :=
  ⟨ending, shown, false, none, d, false⟩

def reporting (ending : Ending) (shown : List Display) (d : Directory) : Outcome :=
  ⟨ending, shown, false, none, d, true⟩

end Outcome

section Showing

variable (c : Console)

def style : Verdict → String
  | .tautology => "bold green"
  | .contradiction => "bold red"
  | .contingency => "bold yellow"

def cells (symbols : List String) (r : Row) : List String :=
  symbols.map (fun s => if (lookup s r.assignment).getD false then "V" else "F") ++
    [if r.result then "[green]V[/]" else "[red]F[/]"]

def readingOf (r : Report String) : String :=
  let meanings := ofPairs (r.propositions.map fun p => (p.symbol, p.meaning.toList))
  String.ofList (paraphrase (meaningOf meanings) r.expression.toList)

def showReport (r : Report String) : List Display :=
  let symbols := r.propositions.map (·.symbol)
  [.table "Proposiciones" ["Símbolo", "Significado"]
      (r.propositions.map fun p => [c.escape p.symbol, c.escape p.meaning]),
    .markup s!"\n📐 Expresión: [bold]{c.escape r.expression}[/]",
    .markup s!"🗣️  Lectura:   {c.escape (readingOf r)}\n",
    .table "Tabla de verdad" (symbols ++ [c.escape r.expression]) (r.rows.map (cells symbols)),
    .markup s!"\n🏷️  [{style r.verdict}]{r.verdict.label}[/]"]

def historyRow (i : Nat) (r : Report Json) : Except Failure (List String) :=
  match r.expression with
  | .str expression =>
    match c.cell? r.timestamp with
    | some timestamp => .ok [toString i, timestamp, c.escape expression, r.verdict.label]
    | none => .error (.notShowable r.timestamp)
  | _ => .error .notText

def showHistory (h : History) (reports : List (Report Json)) : Except Failure (List Display) :=
  match reports with
  | [] => .ok [.markup "[yellow]No hay análisis guardados.[/]"]
  | reports => do
    let rows ← reports.zipIdx.mapM fun (r, i) => historyRow c i r
    return [.table s!"Historial ({h.path})" ["#", "Fecha", "Expresión", "Tipo"] rows]

def showError (message : String) : Display :=
  .markup s!"[bold red]❌ {c.escape message}[/]"

def showExport (name : String) : Display :=
  .markup s!"\n💾 Exportado a {Path.ofString name}"

def showKept (n : Nat) (limit : String) : Display :=
  .markup s!"🗂️  Guardado en historial ({n}/{limit})"

def showSettingsError (e : Settings.SourceError) : Display :=
  .markup s!"[bold red]❌ Config inválido: {c.escape e.message}[/]"

end Showing

section Running

variable (c : Console)

def given? (s : Option String) : Option String :=
  s.filter (· ≠ "")

-- The settings that the arguments name, or those of the environment.
def settingsOf (a : Arguments) (env : Settings.Environment) (d : Directory) :
    Except Settings.SourceError Settings :=
  match given? a.config with
  | some name => Settings.load d name
  | none => Settings.ofEnvironment env

-- Writes the text of a report into a file, if one is named.
def exportReport (name : Option String) (d : Directory) (r : Report String) : Change FileError :=
  match name with
  | none => .done d
  | some name => d.deposit (.ofString name) (encodeText r.document.toText)

-- Tells how many reports the history holds, and of how many that it may.
def tellKept (h : History) (shown : List Display) (d : Directory) : Outcome :=
  match h.size d, h.maxEntries.display? with
  | .error e, _ => .reporting (.failure (.history e)) shown d
  | .ok _, none => .reporting (.failure .tooManyDigits) shown d
  | .ok n, some limit => .reporting (.exit 0) (shown ++ [showKept n limit]) d

-- What follows a report: the files that were asked for, each told of once it is written.
def deliver (a : Arguments) (h : Option History) (told : List Display) (d : Directory)
    (r : Report String) : Outcome :=
  let shown := told ++ showReport c r
  match exportReport (given? a.json) d r with
  | ⟨d, some e⟩ => .reporting (.failure (.file e)) shown d
  | ⟨d, none⟩ =>
    let shown := shown ++ ((given? a.json).map showExport).toList
    match h with
    | none => .reporting (.exit 0) shown d
    | some h =>
      match h.save d r.document with
      | ⟨d, some e⟩ => .reporting (.failure (.history e)) shown d
      | ⟨d, none⟩ => tellKept h shown d

def consult (h : History) (d : Directory) : Outcome :=
  match h.entries d with
  | .error e => .quiet (.failure (.history e)) [] d
  | .ok reports => match showHistory c h reports with
    | .error e => .quiet (.failure e) [] d
    | .ok shown => .quiet (.exit 0) shown d

def preview (ps : List Named) (text : String) (d : Directory) : Outcome :=
  match Prose.extract ps text with
  | .ok expression => .quiet (.exit 0) [.markup s!"📐 {c.escape expression}"] d
  | .error e => .quiet (.exit 1) [showError c e.message] d

-- The end of a run whose analysis has failed.
def refuse (e : AnalysisError) (told : List Display) (d : Directory) : Outcome :=
  if e.isTold then .quiet (.exit 1) (told ++ [showError c (e.message?.getD "")]) d
  else .quiet (.failure (.analysis e)) told d

-- A run that analyses a text. An expression that is given without a value is told of as an empty
-- list, after which nothing can be done with it.
def examine (a : Arguments) (settings : Settings) (h : Option History) (ps : List Named)
    (text : String) (d : Directory) (now : String) : Outcome :=
  let request := ⟨text, ps.map (·.declared), a.expression.join⟩
  if a.expression = some none then
    match Analysis.validate settings request with
    | .error e => refuse c (.ofValidation e) [] d
    | .ok _ =>
      let lines := Analysis.validatedLines request ++ [Analysis.givenLine "[]"]
      .quiet (.failure .noExpression) (if a.verbose then lines else []) d
  else
    match Analysis.run settings request now a.verbose with
    | (told, .error e) => refuse c e told d
    | (told, .ok r) => deliver c a h told d r

-- The declared propositions; one that is declared without a value is as malformed as an empty
-- list.
def declarations (a : Arguments) : Except DeclarationError (List Named) :=
  a.propositions.mapM fun p => match p with
    | some p => .ok p
    | none => .error (.malformed (.arr []))

-- A run with arguments that have been understood; `now` is the timestamp of a report.
def execute (a : Arguments) (env : Settings.Environment) (d : Directory) (now : String) :
    Outcome :=
  match settingsOf a env d with
  | .error e => .quiet (.exit 1) [showSettingsError c e] d
  | .ok settings =>
    let h := (given? a.history).map fun name =>
      (⟨.ofString name, settings.historyMaxEntries⟩ : History)
    if a.showHistory then
      match h with
      | none =>
        .quiet (.exit 1) [.markup "[bold red]❌ --show-history requiere --history ARCHIVO[/]"] d
      | some h => consult c h d
    else match given? a.text with
      | none => { Outcome.quiet (.exit 1) [] d with help := true }
      | some text =>
        match declarations a with
        | .error e => refuse c (.ofDeclaration e) [] d
        | .ok ps =>
          if a.preview then preview c ps text d else examine c a settings h ps text d now

def run (argv : List String) (env : Settings.Environment) (d : Directory) (now : String) :
    Outcome :=
  match parse argv with
  | .error e => { Outcome.quiet (.exit 2) [] d with usage := some e }
  | .ok .help => { Outcome.quiet (.exit 0) [] d with help := true }
  | .ok (.run a) => execute c a env d now

end Running

section Help

def programName : String := "analyze.py"

def usageLines : List String := [
  s!"usage: {programName} [-h] [-p SIMBOLO=SIGNIFICADO] [-e EXPRESSION] [--preview]",
  "                  [--json JSON] [--history HISTORY] [--show-history]",
  "                  [--config CONFIG] [-V]",
  "                  [text]"]

def helpLines : List String := usageLines ++ [
  "",
  "Analiza proposiciones lógicas: texto → expresión → tabla de verdad",
  "",
  "positional arguments:",
  "  text                  Texto a analizar",
  "",
  "options:",
  "  -h, --help            show this help message and exit",
  "  -p SIMBOLO=SIGNIFICADO, --var SIMBOLO=SIGNIFICADO",
  "                        Proposición declarada (repetible)",
  "  -e EXPRESSION, --expression EXPRESSION",
  "                        Expresión simbólica (omite la extracción del texto)",
  "  --preview             Solo mostrar la expresión extraída del texto",
  "  --json JSON           Exportar el resultado a JSON",
  "  --history HISTORY     Archivo de historial (se guarda cada análisis)",
  "  --show-history        Mostrar el historial guardado",
  "  --config CONFIG       Config JSON (default: variables de entorno / .env)",
  "  -V, --verbose         Mostrar cada etapa"]

def helpText : String :=
  "\n".intercalate helpLines ++ "\n"

def usageErrorText (e : UsageError) : String :=
  s!"{programName}: error: {e.message}"

end Help

end Enunciado.CommandLine

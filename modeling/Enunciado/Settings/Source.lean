import Enunciado.Settings.Basic
import Enunciado.Storage.Directory
import Enunciado.Storage.Encoding
import Enunciado.Text.Digit
import Enunciado.Text.Lowercase

namespace Enunciado.Settings

-- Variables of an environment, with their values.
abbrev Environment := List (String × String)

-- Why a variable can not be set.
inductive VariableError
  | equalsSign
  | nul
deriving DecidableEq, Repr

-- What sets the variables that a file names. Those that are set already stay as they are.
structure VariableReader where
  load : Environment → String → Except VariableError Environment
  keeps : ∀ {env text env'}, load env text = .ok env' →
    ∀ {name value}, lookup name env = some value → lookup name env' = some value

inductive SourceError
  | refused (e : SettingsError)
  | file (e : FileError)
  -- The bytes of a file encode no text.
  | undecodable
  | json (text : String) (e : Json.ReadError)
  | notInteger (variableName : String) (value : String)
  | badVariable (e : VariableError)

namespace SourceError

def message : SourceError → String
  | refused e => e.message
  | file e => e.message
  | undecodable => "the bytes of the file encode no text"
  | json text e => e.message text
  | notInteger name value =>
    s!"{name} debe ser un entero, recibí {Text.inQuotes value}"
  | badVariable .equalsSign => "illegal environment variable name"
  | badVariable .nul => "embedded null byte"

end SourceError

def ofText (text : String) : Except SourceError Settings :=
  match Json.parse text with
  | .error e => .error (.json text e)
  | .ok v => (ofJson v).mapError .refused

def ofBytes (bytes : ByteArray) : Except SourceError Settings :=
  match decodeText? bytes with
  | none => .error .undecodable
  | some text => ofText text

def load (d : Directory) (name : String) : Except SourceError Settings :=
  match d.readNamed name with
  | .error e => .error (.file e)
  | .ok bytes => ofBytes bytes

def toText (s : Settings) : String :=
  s.toJson.pretty

def variableName (name : String) : String :=
  "PROPLOGIC_" ++ name

-- The variables that set whole numbers, with the settings that they set.
def integerVariables : List (String × String) := [
  ("MAX_PROPOSITIONS", "max_propositions"), ("MAX_TEXT_LENGTH", "max_text_length"),
  ("HISTORY_SIZE", "history_max_entries")]

def strictVariable : String := "STRICT_VARIABLES"

def variableNames : List String :=
  (integerVariables.map (·.1) ++ [strictVariable]).map variableName

-- The words for "yes".
def affirmations : List String := ["1", "true", "yes", "si", "sí"]

-- Whether a text says "yes", in whatever case and between blanks.
def affirms (s : String) : Bool :=
  affirmations.contains (String.ofList (Text.lowercase (Text.trim s.toList)))

-- The field that a variable sets, if it is in the environment.
def integerField (env : Environment) (entry : String × String) :
    Except SourceError (List (String × Json)) :=
  let name := variableName entry.1
  match lookup name env with
  | none => .ok []
  | some value =>
    match Text.integer? value.toList with
    | some n => .ok [(entry.2, .int n)]
    | none => .error (.notInteger name value)

def ofEnvironment (env : Environment) : Except SourceError Settings := do
  let numbers ← integerVariables.mapM (integerField env)
  let strict := match lookup (variableName strictVariable) env with
    | none => []
    | some value => [("strict_variables", Json.bool (affirms value))]
  (ofFields (numbers.flatten ++ strict)).mapError .refused

-- The settings that an environment gives together with a file of variables, if there is one.
def ofEnvironmentAnd (reader : VariableReader) (env : Environment) (text : Option String) :
    Except SourceError Settings :=
  match text with
  | none => ofEnvironment env
  | some text => ((reader.load env text).mapError .badVariable).bind ofEnvironment

end Enunciado.Settings

import Enunciado.Settings.Source

namespace Enunciado.EnvironmentFile

open Text

-- A line of the file: a name, and a value if there is an equals sign.
structure Binding where
  name : List Char
  value : Option (List Char)
deriving DecidableEq, Repr

def isInlineBlank (c : Char) : Bool :=
  isBlank c && c ≠ '\n' && c ≠ '\r'

def skipInline (s : List Char) : List Char :=
  s.dropWhile isInlineBlank

def endsLine (c : Char) : Bool :=
  c = '\n' || c = '\r'

-- What follows the word "export" and blanks, if the text begins with them.
def skipExport (s : List Char) : List Char :=
  match s with
  | 'e' :: 'x' :: 'p' :: 'o' :: 'r' :: 't' :: c :: r => if isInlineBlank c then skipInline r else s
  | s => s

-- The characters before a closing quote and what follows it. A character right after a backslash
-- belongs to it, so that a quote does not close there.
def untilQuote? (q : Char) : List Char → Option (List Char × List Char)
  | [] => none
  | '\\' :: c :: s => (untilQuote? q s).map fun (inside, r) => ('\\' :: c :: inside, r)
  | c :: s =>
    if c = q then some ([], s)
    else (untilQuote? q s).map fun (inside, r) => (c :: inside, r)

-- The character that a letter after a backslash stands for between double quotes.
def escaped? : Char → Option Char
  | '\\' => some '\\'
  | '\'' => some '\''
  | '"' => some '"'
  | 'a' => some '\x07'
  | 'b' => some '\x08'
  | 'f' => some '\x0c'
  | 'n' => some '\n'
  | 'r' => some '\r'
  | 't' => some '\t'
  | 'v' => some '\x0b'
  | _ => none

-- The quoted characters, with the escapes that `escaped` knows replaced.
def unescape (escaped : Char → Option Char) : List Char → List Char
  | '\\' :: c :: s => match escaped c with
    | some d => d :: unescape escaped s
    | none => '\\' :: unescape escaped (c :: s)
  | c :: s => c :: unescape escaped s
  | [] => []

-- Between single quotes only backslashes and single quotes are escaped.
def escapedSingle? (c : Char) : Option Char :=
  if c = '\\' || c = '\'' then some c else none

-- A value without quotes, up to a comment, which begins with blanks and a number sign.
def dropComment : List Char → List Char
  | [] => []
  | c :: s =>
    if isBlank c && (s.dropWhile isBlank).head? = some '#' then [] else c :: dropComment s

-- The value after an equals sign and blanks, and what follows it; none if a quote is not
-- closed.
def readValue? (s : List Char) : Option (List Char × List Char) :=
  match skipInline s with
  | '\'' :: r => (untilQuote? '\'' r).map fun (v, r) => (unescape escapedSingle? v, r)
  | '"' :: r => (untilQuote? '"' r).map fun (v, r) => (unescape escaped? v, r)
  | _ =>
    let line := s.takeWhile (!endsLine ·)
    some (trim (dropComment line), s.dropWhile (!endsLine ·))

-- The name at the start of a line and what follows it, or what is left where a name should be.
def readName (s : List Char) : Except (List Char) (List Char × List Char) :=
  match s with
  | '\'' :: r =>
    match r.span (· ≠ '\'') with
    | (c :: name, _ :: r) => .ok (c :: name, r)
    | _ => .error s
  | s =>
    match s.span fun c => c ≠ '=' && c ≠ '#' && !isBlank c with
    | ([], _) => .error s
    | p => .ok p

-- The end of a line, after blanks and perhaps a comment; what is left of the text if something
-- else comes first.
def readEnd (s : List Char) : Except (List Char) (List Char) :=
  let r := match skipInline s with
    | '#' :: r => r.dropWhile (!endsLine ·)
    | _ => s
  match skipInline r with
  | [] => .ok []
  | '\r' :: '\n' :: t => .ok t
  | c :: t => if endsLine c then .ok t else .error r

-- One binding, none for a line that is empty or a comment, and what follows; or what is left where
-- a line goes wrong.
def readBinding (s : List Char) : Except (List Char) (Option Binding × List Char) :=
  match s.dropWhile isBlank with
  | [] => .ok (none, [])
  | c :: s =>
    let s := skipExport (c :: s)
    match s with
    | '#' :: _ => (readEnd s).map (none, ·)
    | s =>
      match readName s with
      | .error r => .error r
      | .ok (name, r) =>
        match skipInline r with
        | '=' :: r =>
          match readValue? r with
          | none => .error (skipInline r)
          | some (v, r) => (readEnd r).map (some ⟨name, some v⟩, ·)
        | r => (readEnd r).map (some ⟨name, none⟩, ·)

def skipLine (s : List Char) : List Char :=
  (s.dropWhile (!endsLine ·)).drop 1

-- All bindings of a text, of which at most `lines` are read.
def readBindings : Nat → List Char → List Binding
  | 0, _ => []
  | _, [] => []
  | lines + 1, s =>
    match readBinding s with
    | .error r => readBindings lines (skipLine r)
    | .ok (none, r) => readBindings lines r
    | .ok (some b, r) => b :: readBindings lines r

-- The text after the mark that may stand at its start to tell how it is encoded.
def skipMark : List Char → List Char
  | '\ufeff' :: s => s
  | s => s

-- The bindings of a file; each takes at least one character.
def parse (text : String) : List Binding :=
  readBindings (text.length + 1) (skipMark text.toList)

-- A variable that a value mentions between braces after a dollar sign, what stands for it if it
-- has no value, and what follows.
def mention? (s : List Char) : Option (List Char × List Char × List Char) :=
  match s with
  | '$' :: '\x7b' :: r =>
    match r.span fun c => c ≠ '\x7d' && c ≠ ':' with
    | (name, '\x7d' :: t) => some (name, [], t)
    | (name, ':' :: '-' :: t) =>
      match t.span (· ≠ '\x7d') with
      | (default, '\x7d' :: t) => some (name, default, t)
      | _ => none
    | _ => none
  | _ => none

-- The value with the variables that it mentions replaced by theirs; at most `steps` characters and
-- mentions are looked at.
def interpolate (value? : List Char → Option (List Char)) : Nat → List Char → List Char
  | 0, _ => []
  | _, [] => []
  | steps + 1, c :: s =>
    match mention? (c :: s) with
    | some (name, default, r) => (value? name).getD default ++ interpolate value? steps r
    | none => c :: interpolate value? steps s

-- Variables with their values; a variable may be named without getting one.
abbrev Variables := List (List Char × Option (List Char))

-- The variables that the bindings set, one after the other. A value mentions variables of the
-- environment first, then those that earlier bindings set.
def resolve (environment : List (List Char × List Char)) (bindings : List Binding) : Variables :=
  bindings.foldl (fun vars b =>
    let value? name := match lookup name environment with
      | some v => some v
      | none => (lookup name vars).map (·.getD [])
    put b.name (b.value.map fun v => interpolate value? (v.length + 1) v) vars) []

-- The environment with one more variable, unless it has it or the variable gets no value.
def setVariable (env : Settings.Environment) (name : List Char) (value : Option (List Char)) :
    Except Settings.VariableError Settings.Environment :=
  match value with
  | none => .ok env
  | some v =>
    if (lookup (String.ofList name) env).isSome then .ok env
    else if name.contains '\x00' || v.contains '\x00' then .error .nul
    else if name.contains '=' then .error .equalsSign
    else .ok (put (String.ofList name) (String.ofList v) env)

def setVariables (env : Settings.Environment) :
    Variables → Except Settings.VariableError Settings.Environment
  | [] => .ok env
  | (name, value) :: rest => (setVariable env name value).bind (setVariables · rest)

def load (env : Settings.Environment) (text : String) :
    Except Settings.VariableError Settings.Environment :=
  let chars := env.map fun (name, value) => (name.toList, value.toList)
  setVariables env (resolve chars (parse (String.ofList (unifyLines text.toList))))

variable {env env' : Settings.Environment}

theorem setVariable_keeps (h : setVariable env name value = .ok env') {key old : String}
    (hk : lookup key env = some old) : lookup key env' = some old := by
  unfold setVariable at h
  split at h
  case h_1 =>
    cases h
    exact hk
  case h_2 v =>
    split at h
    case isTrue =>
      cases h
      exact hk
    case isFalse hn =>
      -- A variable that is new has another name than those that are there.
      have hne : String.ofList name ≠ key := by
        rintro rfl
        exact hn (hk ▸ rfl)
      split at h
      case isTrue => cases h
      case isFalse =>
        split at h <;> cases h
        rw [lookup_put_of_ne hne, hk]

theorem setVariables_keeps {vars : Variables} (h : setVariables env vars = .ok env')
    {key old : String} (hk : lookup key env = some old) : lookup key env' = some old := by
  induction vars generalizing env with
  | nil =>
    cases h
    exact hk
  | cons var vars ih =>
    obtain ⟨name, value⟩ := var
    rw [setVariables] at h
    cases hs : setVariable env name value with
    | error e =>
      rw [hs] at h
      cases h
    | ok next =>
      rw [hs] at h
      exact ih h (setVariable_keeps hs hk)

-- The reader of the program.
def reader : Settings.VariableReader where
  load := load
  keeps h := setVariables_keeps h

end Enunciado.EnvironmentFile

import Enunciado.Proposition
import Enunciado.Text.Blank
import Enunciado.Text.Digit

namespace Enunciado.CommandLine

inductive Switch
  | help
  | variableSwitch
  | expression
  | preview
  | json
  | history
  | showHistory
  | config
  | verbose
deriving DecidableEq, Repr

namespace Switch

def all : List Switch :=
  [help, variableSwitch, expression, preview, json, history, showHistory, config, verbose]

-- The names of an option, the short one first.
def names : Switch → List String
  | help => ["-h", "--help"]
  | variableSwitch => ["-p", "--var"]
  | expression => ["-e", "--expression"]
  | preview => ["--preview"]
  | json => ["--json"]
  | history => ["--history"]
  | showHistory => ["--show-history"]
  | config => ["--config"]
  | verbose => ["-V", "--verbose"]

def takesValue : Switch → Bool
  | variableSwitch | expression | json | history | config => true
  | help | preview | showHistory | verbose => false

def title (s : Switch) : String :=
  "/".intercalate s.names

-- All names with their options, in order.
def table : List (String × Switch) :=
  all.flatMap fun s => s.names.map fun name => (name, s)

def ofName? (name : String) : Option Switch :=
  lookup name table

end Switch

inductive UsageError
  | ambiguous (argument : String) (names : List String)
  | noValue (s : Switch)
  | unwantedValue (s : Switch) (value : String)
  | badVariable (value : String)
  | unrecognized (arguments : List String)
deriving DecidableEq, Repr

def badVariableMessage (value : String) : String :=
  s!"Formato inválido {Text.inQuotes value}: se espera SIMBOLO=SIGNIFICADO (ej: p=llueve)"

def UsageError.message : UsageError → String
  | ambiguous argument names =>
    s!"ambiguous option: {argument} could match " ++ ", ".intercalate names
  | noValue s => s!"argument {s.title}: expected one argument"
  | unwantedValue s value =>
    s!"argument {s.title}: ignored explicit argument {Text.inQuotes value}"
  | badVariable value => s!"argument {Switch.variableSwitch.title}: {badVariableMessage value}"
  | unrecognized arguments => "unrecognized arguments: " ++ " ".intercalate arguments

-- The proposition that "SYMBOL=MEANING" declares, without blanks around either.
def parseVariable? (value : String) : Option Named :=
  match value.toList.span (· ≠ '=') with
  | (symbol, '=' :: meaning) =>
    some ⟨String.ofList (Text.trim symbol), String.ofList (Text.trim meaning)⟩
  | _ => none

-- The value of an option, which may be none although the option is there.
abbrev Value := Option String

structure Arguments where
  text : Option String
  propositions : List (Option Named)
  expression : Option Value
  preview : Bool
  json : Option String
  history : Option String
  showHistory : Bool
  config : Option String
  verbose : Bool
deriving DecidableEq

def Arguments.none : Arguments :=
  ⟨.none, [], .none, false, .none, .none, false, .none, false⟩

section Classification

-- An argument by itself: the two dashes after which there are no options, a word, or an option by
-- one of its names, perhaps with a value attached to it; an option may be unknown.
inductive Item
  | dashes
  | word (s : String)
  | option (s : String) (switch : Option Switch) (shortName : Bool) (attached : Option String)
deriving DecidableEq, Repr

def splitAtSign? (s : String) : Option (String × String) :=
  match s.toList.span (· ≠ '=') with
  | (name, '=' :: value) => some (String.ofList name, String.ofList value)
  | _ => none

def isDecimal (c : Char) : Bool :=
  (Text.digitValue? c).isSome

-- Whether a text is a negative number; a line end may follow it.
def isNegativeNumber (s : String) : Bool :=
  match s.toList with
  | '-' :: s =>
    let s := if s.getLast? = some '\n' then s.dropLast else s
    match s.span isDecimal with
    | (ds, []) => !ds.isEmpty
    | (_, '.' :: fraction) => !fraction.isEmpty && fraction.all isDecimal
    | _ => false
  | _ => false

-- The options that an argument may mean by a beginning of its name, or by a letter with a value
-- attached to it.
def candidates (s : String) : List (String × Switch × Option String) :=
  match s.toList with
  | '-' :: '-' :: _ =>
    let (beginning, attached) : String × Option String := match splitAtSign? s with
      | some (name, value) => (name, some value)
      | none => (s, none)
    (Switch.table.filter fun (name, _) => beginning.toList.isPrefixOf name.toList).map
      fun (name, switch) => (name, switch, attached)
  | '-' :: c :: value =>
    (Switch.table.filter fun (name, _) => name.toList = ['-', c]).map
      fun (name, switch) => (name, switch, some (String.ofList value))
  | _ => []

def isShort (name : String) : Bool :=
  !(['-', '-'].isPrefixOf name.toList)

def classify (s : String) : Except UsageError Item :=
  if s.toList.head? ≠ some '-' then .ok (.word s)
  else match Switch.ofName? s with
    | some switch => .ok (.option s (some switch) (isShort s) none)
    | none =>
      if s = "-" then .ok (.word s)
      else
        let named := (splitAtSign? s).bind fun (name, value) =>
          (Switch.ofName? name).map fun switch => (name, switch, value)
        match named with
        | some (name, switch, value) =>
          .ok (.option s (some switch) (isShort name) (some value))
        | none =>
          match candidates s with
          | [(name, switch, attached)] => .ok (.option s (some switch) (isShort name) attached)
          | [] =>
            if isNegativeNumber s || s.toList.contains ' ' then .ok (.word s)
            else .ok (.option s none (isShort s) none)
          | found => .error (.ambiguous s (found.map (·.1)))

-- The arguments one by one; after two dashes all are words.
def classifyAll : List String → Except UsageError (List Item)
  | [] => .ok []
  | s :: rest =>
    if s = "--" then .ok (.dashes :: rest.map .word)
    else do return (← classify s) :: (← classifyAll rest)

end Classification

section Interpretation

def Item.raw : Item → String
  | .dashes => "--"
  | .word s => s
  | .option s _ _ _ => s

def Item.isOption : Item → Bool
  | .option _ _ _ _ => true
  | _ => false

-- What has been understood of the arguments so far; `textTaken` tells whether there can be no text
-- any more.
structure Progress where
  arguments : Arguments
  textTaken : Bool
  extras : List String

-- The outcome of the arguments: a request for help, or what they ask for.
inductive Invocation
  | help
  | run (arguments : Arguments)

-- The arguments with an option applied; none for a request for help.
def apply (a : Arguments) : Switch × Value → Except UsageError (Option Arguments)
  | (.help, _) => .ok none
  | (.variableSwitch, none) => .ok (some { a with propositions := a.propositions ++ [none] })
  | (.variableSwitch, some value) => match parseVariable? value with
    | some p => .ok (some { a with propositions := a.propositions ++ [some p] })
    | none => .error (.badVariable value)
  | (.expression, value) => .ok (some { a with expression := some value })
  | (.preview, _) => .ok (some { a with preview := true })
  | (.json, value) => .ok (some { a with json := value })
  | (.history, value) => .ok (some { a with history := value })
  | (.showHistory, _) => .ok (some { a with showHistory := true })
  | (.config, value) => .ok (some { a with config := value })
  | (.verbose, _) => .ok (some { a with verbose := true })

def applyAll (a : Arguments) : List (Switch × Value) → Except UsageError (Option Arguments)
  | [] => .ok (some a)
  | s :: rest => do
    match ← apply a s with
    | none => return none
    | some a => applyAll a rest

def attachedValue (s : List Char) : Value :=
  if s = ['-', '-'] then none else some (String.ofList s)

-- The options that one argument stands for, and the arguments after it.
abbrev Expansion := List (Switch × Value) × List Item

-- An option with nothing attached to it; its value is the word that follows.
def expandAlone (switch : Switch) (rest : List Item) : Except UsageError Expansion :=
  if switch.takesValue then
    match rest with
    | .word value :: rest => .ok ([(switch, some value)], rest)
    | _ => .error (.noValue switch)
  else .ok ([(switch, none)], rest)

-- An option with characters attached to it: its value, or more letters after a letter that takes
-- no value.
def expandAttached (switch : Switch) (short : Bool) (rest : List Item) :
    List Char → Except UsageError Expansion
  | [] =>
    if switch.takesValue then .ok ([(switch, some "")], rest)
    else .error (.unwantedValue switch "")
  | c :: more =>
    if switch.takesValue then .ok ([(switch, attachedValue (c :: more))], rest)
    else
      let next := if short then Switch.ofName? (String.ofList ['-', c]) else none
      match next with
      | none => .error (.unwantedValue switch (String.ofList (c :: more)))
      | some next =>
        let others := if more = [] then expandAlone next rest
          else expandAttached next true rest more
        others.map fun (switches, rest) => ((switch, none) :: switches, rest)

def expand (switch : Switch) (short : Bool) (attached : Option String) (rest : List Item) :
    Except UsageError Expansion :=
  match attached with
  | none => expandAlone switch rest
  | some s => expandAttached switch short rest s.toList

-- The words that come after the last option: the first of them is the text, unless there is one,
-- and two dashes next to it are dropped.
def finish (p : Progress) (items : List Item) : Progress :=
  if p.textTaken then { p with extras := p.extras ++ items.map Item.raw }
  else
    let (text, rest) := match items with
      | .dashes :: .word s :: rest => (some s, rest)
      | .dashes :: rest => (none, rest)
      | .word s :: .dashes :: rest => (some s, rest)
      | .word s :: rest => (some s, rest)
      | rest => (none, rest)
    { arguments := { p.arguments with text := text }
      textTaken := true
      extras := p.extras ++ rest.map Item.raw }

-- Takes a word for the text, if there is none yet.
def takeWord (p : Progress) (s : String) : Progress :=
  if p.textTaken then { p with extras := p.extras ++ [s] }
  else { p with arguments := { p.arguments with text := some s }, textTaken := true }

-- Understands the arguments one after the other; none for a request for help. At most `steps`
-- arguments are looked at.
def interpret : Nat → Progress → List Item → Except UsageError (Option Progress)
  | 0, p, _ => .ok (some p)
  | steps + 1, p, items =>
    if !items.any Item.isOption then .ok (some (finish p items))
    else match items with
      | .word s :: rest => interpret steps (takeWord p s) rest
      | .option s none _ _ :: rest => interpret steps { p with extras := p.extras ++ [s] } rest
      | .option _ (some switch) short attached :: rest =>
        match expand switch short attached rest with
        | .error e => .error e
        | .ok (switches, rest) =>
          match applyAll p.arguments switches with
          | .error e => .error e
          | .ok none => .ok none
          | .ok (some a) => interpret steps { p with arguments := a } rest
      | .dashes :: _ | [] => .ok (some (finish p items))

-- One text, and options: a dash and a letter, or two dashes and a word that may be cut short as long
-- as it can be told from the others. Letters may be written together, and a value may follow its
-- option at once or after an equals sign.
def parse (argv : List String) : Except UsageError Invocation := do
  let items ← classifyAll argv
  match ← interpret (items.length + 1) ⟨.none, false, []⟩ items with
  | none => return .help
  | some p =>
    if p.extras.isEmpty then return .run p.arguments
    else throw (.unrecognized p.extras)

end Interpretation

end Enunciado.CommandLine

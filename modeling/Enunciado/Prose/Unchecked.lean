import Enunciado.Prose.Relationship

namespace Enunciado.Prose

inductive UncheckedError
  | unmatched (term : List Char)
  -- A symbol that is no text is joined with others.
  | wordlessSymbol
  -- A meaning that is no text is compared with a clause.
  | wordlessMeaning
  -- A symbol is written beside something that is a whole number with too many digits, or has one.
  | tooManyDigits
  | continuation (sentence : List Char)
  | nothing
deriving DecidableEq

namespace UncheckedError

-- The error as one of an extraction; none for those that only tell the kind of a value.
def extraction? : UncheckedError → Option ExtractionError
  | unmatched term => some (.unmatched term)
  | continuation s => some (.continuation s)
  | nothing => some .nothing
  | wordlessSymbol | wordlessMeaning | tooManyDigits => none

def ofRelation : RelationError UncheckedError → UncheckedError
  | .clause e => e
  | .continuation s => continuation s

def isUnmatched : UncheckedError → Bool
  | unmatched _ => true
  | _ => false

end UncheckedError

-- The declarations, if all of their meanings are texts.
def withWords (ps : List Declared) : Except UncheckedError (List (Proposition Json String)) :=
  ps.mapM fun p => match p.meaning with
    | .str s => .ok ⟨p.symbol, s⟩
    | _ => .error .wordlessMeaning

def joinedText : Json → Except UncheckedError (List Char)
  | .str s => .ok s.toList
  | _ => .error .wordlessSymbol

-- Parts joined by an operator; a single part stays what it is.
def joinParts (op : Operator) : List Json → Except UncheckedError Json
  | [v] => .ok v
  | vs => do return .str (String.ofList (chain op (← vs.mapM joinedText)))

-- A value as it is written beside something.
def besideText (v : Json) : Except UncheckedError (List Char) :=
  match v.display? with
  | some s => .ok s
  | none => .error .tooManyDigits

-- A value, or the text that denies it.
def denyValue (negated : Bool) (v : Json) : Except UncheckedError Json :=
  if negated then (besideText v).map fun s => .str (String.ofList (denyIf true s)) else .ok v

def readTerm (ps : List (Proposition Json String)) (s : List Char) : Except UncheckedError Json :=
  match readLiteral ps s with
  | .ok l => denyValue l.negated l.symbol
  | .error e => .error (.unmatched e.term)

def readValue (ps : List (Proposition Json String)) (s : List Char) :
    Except UncheckedError Json := do
  let (negated, text) := stripNegation s
  let parts ← (splitAtWord 'y' text).mapM fun part => do
    joinParts .or (← (splitAtWord 'o' part).mapM (readTerm ps))
  denyValue negated (← joinParts .and parts)

-- The two clauses of a conditional. Both are written beside an arrow, once both have been read.
def readValues (ps : List (Proposition Json String)) (parts : List Char × List Char) :
    Except (RelationError UncheckedError) (Json × Json) := do
  let (a, c) ← readConditional (readValue ps) parts
  if a.hasLong || c.hasLong then throw (.clause .tooManyDigits)
  return (a, c)

-- What a statement says. The clauses of a conditional are known to be writable.
def Statement.value : Statement Json → Json
  | plain v => v
  | s => .str (String.ofList (s.render fun v => v.display?.getD []))

structure Finding where
  kind : String
  raw : Json
  source : String
deriving DecidableEq

def uncheckedMatch (ps : List Declared) (clause : String) :
    Except UncheckedError (Option Json) := do
  let ps ← withWords ps
  return (bestMatch ps clause.toList).map (·.symbol)

-- The score of every declaration, in order.
def uncheckedScores (ps : List Declared) (clause : String) :
    Except UncheckedError (List Magnitude) := do
  let ps ← withWords ps
  let ws := foldedWords clause.toList
  return ps.map fun p => score ws p.meaning.toList

def uncheckedClause (ps : List Declared) (clause : String) : Except UncheckedError Json := do
  readValue (← withWords ps) clause.toList

-- The relationships that a text states; without sentences there is nothing to compare.
def uncheckedFindings (ps : List Declared) (text : String) :
    Except UncheckedError (List Finding) := do
  let ss := sentences (normalize text.toList)
  if ss.isEmpty then return []
  let ps ← withWords ps
  let rs ← (relate (readValue ps) (readValues ps) UncheckedError.isUnmatched ss).mapError
    UncheckedError.ofRelation
  return rs.map fun r => ⟨r.statement.kind, r.statement.value, String.ofList r.source⟩

def uncheckedExtract (ps : List Declared) (text : String) : Except UncheckedError Json := do
  match ← uncheckedFindings ps text with
  | [] => .error .nothing
  | [f] => return f.raw
  | fs => return .str (String.ofList (conjoin (← fs.mapM (besideText ·.raw))))

end Enunciado.Prose

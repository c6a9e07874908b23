import Enunciado.Formula.Parser
import Enunciado.Proposition
import Enunciado.Settings.Basic

namespace Enunciado

inductive ValidationError
  | emptyText
  | shortText (least : Number)
  | longText (most : Number)
  | fewPropositions (least : Number)
  | manyPropositions (most : Number)
  | badSymbols (symbols : List Json)
  | repeatedSymbols (symbols : List String)
  | meaningKind (symbol : String) (meaning : Json)
  | blankMeaning (symbol : String)
  -- The expression uses letters that are not declared.
  | undeclared (names : List String)
deriving DecidableEq

-- The words for the error; none if a limit or a symbol that they show can not be written.
def ValidationError.message? : ValidationError → Option String
  | emptyText => some "El texto no puede estar vacío."
  | shortText n => n.display?.map fun n => s!"El texto debe tener al menos {n} caracteres."
  | longText n => n.display?.map fun n => s!"El texto no debe exceder los {n} caracteres."
  | fewPropositions n => n.display?.map fun n => s!"Debe proporcionar al menos {n} proposiciones."
  | manyPropositions n =>
    n.display?.map fun n => s!"No puede exceder el máximo de {n} proposiciones."
  | badSymbols symbols => (Json.literalItems? symbols).map fun symbols =>
    let list := ", ".intercalate (symbols.map String.ofList)
    s!"Los símbolos de proposición deben ser letras minúsculas individuales (inválidos: {list})."
  | repeatedSymbols symbols =>
    let list := ", ".intercalate symbols
    some s!"No puede haber símbolos de proposición duplicados ({list})."
  | meaningKind symbol meaning => some <|
    s!"El significado de la proposición '{symbol}' debe ser texto, recibí {meaning.kindName}."
  | blankMeaning symbol => some s!"La proposición '{symbol}' debe tener un significado."
  | undeclared names =>
    let list := ", ".intercalate names
    some s!"La expresión usa proposiciones no declaradas: {list}."

def validateText (settings : Settings) (text : String) : Except ValidationError Unit :=
  let length := Number.int text.length
  if Text.isVoid text.toList then .error .emptyText
  else if length.lt settings.minTextLength then .error (.shortText settings.minTextLength)
  else if settings.maxTextLength.lt length then .error (.longText settings.maxTextLength)
  else .ok ()

-- The text of a symbol, if it is one letter from a to z.
def letterSymbol? : Json → Option String
  | .str s => if Formula.isLetterName s.toList then some s else none
  | _ => none

-- The items that come up more than once, in the order in which they first do.
def repeated {α : Type} [DecidableEq α] : List α → List α
  | [] => []
  | x :: xs =>
    let others := repeated xs
    if x ∈ xs then x :: others.filter (· ≠ x) else others

-- A proposition with a letter for its symbol, if its meaning is a text that is not blank.
def validateMeaning (symbol : String) (meaning : Json) : Except ValidationError Named :=
  match meaning with
  | .str m => if Text.isVoid m.toList then .error (.blankMeaning symbol) else .ok ⟨symbol, m⟩
  | v => .error (.meaningKind symbol v)

-- The declared propositions, if there are neither too few nor too many of them, their symbols are
-- different letters and their meanings texts.
def validatePropositions (settings : Settings) (ps : List Declared) :
    Except ValidationError (List Named) :=
  let count := Number.int ps.length
  let bad := (ps.map (·.symbol)).filter fun v => (letterSymbol? v).isNone
  let symbols := ps.filterMap fun p => letterSymbol? p.symbol
  if count.lt settings.minPropositions then .error (.fewPropositions settings.minPropositions)
  else if settings.maxPropositions.lt count then .error (.manyPropositions settings.maxPropositions)
  else if bad ≠ [] then .error (.badSymbols bad)
  else if repeated symbols ≠ [] then .error (.repeatedSymbols (repeated symbols))
  else (symbols.zip ps).mapM fun (symbol, p) => validateMeaning symbol p.meaning

-- What a check has to say: whether all is well, and else why not.
structure CheckResult where
  valid : Bool
  message : String
deriving DecidableEq, Repr

-- Why a check has nothing to say.
inductive CheckError
  -- The declarations are no object, array or text.
  | noItems
  -- What is wrong shows a whole number with too many digits.
  | tooManyDigits
deriving DecidableEq, Repr

namespace CheckResult

def ok : CheckResult := ⟨true, "OK"⟩

def refused (message? : Option String) : Except CheckError CheckResult :=
  match message? with
  | some m => .ok ⟨false, m⟩
  | none => .error .tooManyDigits

def ofValidation {α : Type} : Except ValidationError α → Except CheckError CheckResult
  | .ok _ => .ok ok
  | .error e => refused e.message?

end CheckResult

def checkText (settings : Settings) (text : String) : Except CheckError CheckResult :=
  CheckResult.ofValidation (validateText settings text)

-- Checks declarations without an analysis.
def checkPropositions (settings : Settings) (declarations : Json) :
    Except CheckError CheckResult :=
  match Proposition.ofJson declarations with
  | .error (.malformed item) => CheckResult.refused (malformedMessage? item)
  | .error .noItems => .error .noItems
  | .ok ps => CheckResult.ofValidation (validatePropositions settings ps)

def checkExpression (expression : String) : CheckResult :=
  match Formula.parse expression with
  | .ok _ => .ok
  | .error e => ⟨false, e.message⟩

end Enunciado

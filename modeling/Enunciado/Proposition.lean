import Enunciado.Json.Literal

namespace Enunciado

-- A symbol with its meaning. Both may be any value as long as they have not been validated.
structure Proposition (σ μ : Type) where
  symbol : σ
  meaning : μ
deriving DecidableEq

-- A proposition as it was declared.
abbrev Declared := Proposition Json Json

abbrev Named := Proposition String String

inductive DeclarationError
  | malformed (item : Json)
  -- The declarations are no object, array or text.
  | noItems
deriving DecidableEq

namespace Proposition

def map {σ μ σ' μ' : Type} (f : σ → σ') (g : μ → μ') (p : Proposition σ μ) :
    Proposition σ' μ' :=
  ⟨f p.symbol, g p.meaning⟩

-- A proposition with texts, as a declared one.
def declared (p : Named) : Declared :=
  p.map .str .str

-- The proposition that one item declares: an object with both keys, an array of two items, or a
-- text of two characters.
def ofItem? : Json → Option Declared
  | .obj fields => do return ⟨← lookup "symbol" fields, ← lookup "meaning" fields⟩
  | .arr [symbol, meaning] => some ⟨symbol, meaning⟩
  | .str s => match s.toList with
    | [symbol, meaning] => some ⟨.str (String.singleton symbol), .str (String.singleton meaning)⟩
    | _ => none
  | _ => none

def ofItem (v : Json) : Except DeclarationError Declared :=
  match ofItem? v with
  | some p => .ok p
  | none => .error (.malformed v)

-- The propositions that a value declares: an object gives one for each field, an array one for
-- each item, and a text is taken character by character.
def ofJson : Json → Except DeclarationError (List Declared)
  | .obj fields => .ok (fields.map fun (symbol, meaning) => ⟨.str symbol, meaning⟩)
  | .arr items => items.mapM ofItem
  | .str s => s.toList.mapM fun c => ofItem (.str (String.singleton c))
  | _ => .error .noItems

end Proposition

-- What is said of an item that declares nothing; none if it can not be written.
def malformedMessage? (item : Json) : Option String :=
  item.literal?.map fun s =>
    s!"Proposición mal formada: {String.ofList s}. Se espera símbolo y significado."

end Enunciado

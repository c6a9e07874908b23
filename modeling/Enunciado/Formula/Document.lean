import Enunciado.Formula.Basic
import Enunciado.Json.Literal

namespace Enunciado

inductive DocumentError
  -- A field or a word that has to be there is not.
  | missing (key : Json)
  -- Something other than an object stands for a formula or an assignment.
  | notAnObject
  -- Something that has no fields or items stands for what must have them.
  | wrongKind
  | unknownNode (kind : Json)
  | unknownVerdict (value : Json)
deriving DecidableEq

namespace DocumentError

-- The words for the error; none for the errors that only tell the kind of a value, and for a key
-- that can not be written.
def message? : DocumentError → Option String
  | missing key => key.literal?.map String.ofList
  | notAnObject | wrongKind => none
  | unknownNode kind => some (kind.inMessage fun s => s!"Tipo de nodo desconocido: {s}")
  | unknownVerdict value => some (value.inMessage fun s => s!"{s} is not a valid ExpressionType")

end DocumentError

namespace Json

def field (key : String) : Json → Except DocumentError Json
  | obj fields => match lookup key fields with
    | some v => .ok v
    | none => .error (.missing (.str key))
  | _ => .error .wrongKind

-- The items of a value: those of an array, the characters of a text or the keys of an object.
def items : Json → Except DocumentError (List Json)
  | arr items => .ok items
  | str s => .ok (s.toList.map fun c => .str (String.singleton c))
  | obj fields => .ok (fields.map fun f => .str f.1)
  | _ => .error .wrongKind

def isKey : Json → Bool
  | arr _ | obj _ => false
  | _ => true

theorem sizeOf_lookup_lt {key : String} {fields : List (String × Json)} {v : Json}
    (h : lookup key fields = some v) : sizeOf v < sizeOf fields := by
  induction fields with
  | nil => simp [lookup] at h
  | cons f fields ih =>
    obtain ⟨k, w⟩ := f
    simp only [lookup] at h
    split at h
    · simp only [Option.some.injEq] at h
      subst h
      simp; omega
    · have := ih h
      simp; omega

end Json

def Operator.ofJson : Json → Except DocumentError Operator
  | .str s => match ofName? s with
    | some op => .ok op
    | none => .error (.missing (.str s))
  | v => if v.isKey then .error (.missing v) else .error .wrongKind

namespace Formula

def toJson : Formula Json → Json
  | var name => .obj [("type", .str "variable"), ("name", name)]
  | const b => .obj [("type", .str "constant"), ("value", .bool b)]
  | unary op x =>
    .obj [("type", .str "unary"), ("operator", .str op.name), ("operand", x.toJson)]
  | binary op x y =>
    .obj [("type", .str "binary"), ("operator", .str op.name), ("left", x.toJson),
      ("right", y.toJson)]

-- The formula that a document stands for. Fields are looked at in the order type, operator,
-- operand or left and right, and other fields are passed over.
def ofJson : Json → Except DocumentError (Formula Json)
  | .obj fields =>
    match (lookup "type" fields).getD .null with
    | .str "variable" => do return var (← (Json.obj fields).field "name")
    | .str "constant" => do return const (← (Json.obj fields).field "value").truthy
    | .str "unary" =>
      match (Json.obj fields).field "operator" with
      | .error e => .error e
      | .ok name =>
        match Operator.ofJson name with
        | .error e => .error e
        | .ok op =>
          match _h : lookup "operand" fields with
          | none => .error (.missing (.str "operand"))
          | some v => (ofJson v).map (unary op)
    | .str "binary" =>
      match (Json.obj fields).field "operator" with
      | .error e => .error e
      | .ok name =>
        match Operator.ofJson name with
        | .error e => .error e
        | .ok op =>
          match _h : lookup "left" fields with
          | none => .error (.missing (.str "left"))
          | some v =>
            match ofJson v with
            | .error e => .error e
            | .ok x =>
              match _h' : lookup "right" fields with
              | none => .error (.missing (.str "right"))
              | some w => (ofJson w).map (binary op x)
    | kind => .error (.unknownNode kind)
  | _ => .error .notAnObject
termination_by v => sizeOf v
decreasing_by
  · have := Json.sizeOf_lookup_lt _h
    simp; omega
  · have := Json.sizeOf_lookup_lt _h
    simp; omega
  · have := Json.sizeOf_lookup_lt _h'
    simp; omega

-- Every formula is read back from its document.
theorem ofJson_toJson (x : Formula Json) : ofJson x.toJson = .ok x := by
  induction x with
  | var name => rw [toJson, ofJson]; rfl
  | const b => rw [toJson, ofJson]; rfl
  | unary op x ih =>
    rw [toJson, ofJson]
    simp [lookup, Json.field, Operator.ofJson, Operator.ofName?_name, ih, Except.map]
  | binary op x y ihx ihy =>
    rw [toJson, ofJson]
    simp [lookup, Json.field, Operator.ofJson, Operator.ofName?_name, ihx, ihy, Except.map]

end Formula

end Enunciado

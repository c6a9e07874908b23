import Enunciado.Binary64.Basic

namespace Enunciado

inductive Json
  | null
  | bool (b : Bool)
  | int (n : Int)
  | float (x : Binary64)
  | str (s : String)
  | arr (items : List Json)
  | obj (fields : List (String × Json))

-- The value of the first field with this key.
def lookup {α β : Type} [DecidableEq α] (key : α) : List (α × β) → Option β
  | [] => none
  | (k, v) :: fields => if k = key then some v else lookup key fields

-- The fields with this one set: in its place if the key is there, else at the end.
def put {α β : Type} [DecidableEq α] (key : α) (value : β) : List (α × β) → List (α × β)
  | [] => [(key, value)]
  | (k, v) :: fields => if k = key then (k, value) :: fields else (k, v) :: put key value fields

section
variable {α β : Type} [DecidableEq α]

theorem lookup_put_self (k : α) (v : β) (fields : List (α × β)) :
    lookup k (put k v fields) = some v := by
  induction fields with
  | nil => simp [put, lookup]
  | cons f fields ih => by_cases h : f.1 = k <;> simp [put, lookup, h, ih]

theorem lookup_put_of_ne {k k' : α} (h : k ≠ k') (v : β) (fields : List (α × β)) :
    lookup k' (put k v fields) = lookup k' fields := by
  induction fields with
  | nil => simp [put, lookup, h]
  | cons f fields ih => by_cases hf : f.1 = k <;> simp_all [put, lookup]

end

-- Fields taken one after the other: of a repeated key the first place and the last value stay.
def ofPairs {α β : Type} [DecidableEq α] (pairs : List (α × β)) : List (α × β) :=
  pairs.foldl (fun fields p => put p.1 p.2 fields) []

namespace Json

mutual

def decEq : (a b : Json) → Decidable (a = b)
  | null, null => isTrue rfl
  | bool a, bool b => decidable_of_iff (a = b) (by simp)
  | int a, int b => decidable_of_iff (a = b) (by simp)
  | float a, float b => decidable_of_iff (a = b) (by simp)
  | str a, str b => decidable_of_iff (a = b) (by simp)
  | arr a, arr b => match decEqItems a b with
    | isTrue h => isTrue (by rw [h])
    | isFalse h => isFalse (by simpa using h)
  | obj a, obj b => match decEqFields a b with
    | isTrue h => isTrue (by rw [h])
    | isFalse h => isFalse (by simpa using h)
  | null, bool _ | null, int _ | null, float _ | null, str _ | null, arr _ | null, obj _
  | bool _, null | bool _, int _ | bool _, float _ | bool _, str _ | bool _, arr _ | bool _, obj _
  | int _, null | int _, bool _ | int _, float _ | int _, str _ | int _, arr _ | int _, obj _
  | float _, null | float _, bool _ | float _, int _ | float _, str _ | float _, arr _
  | float _, obj _
  | str _, null | str _, bool _ | str _, int _ | str _, float _ | str _, arr _ | str _, obj _
  | arr _, null | arr _, bool _ | arr _, int _ | arr _, float _ | arr _, str _ | arr _, obj _
  | obj _, null | obj _, bool _ | obj _, int _ | obj _, float _ | obj _, str _ | obj _, arr _ =>
    isFalse nofun

def decEqItems : (a b : List Json) → Decidable (a = b)
  | [], [] => isTrue rfl
  | [], _ :: _ | _ :: _, [] => isFalse nofun
  | v :: vs, w :: ws => match decEq v w, decEqItems vs ws with
    | isTrue h, isTrue h' => isTrue (by rw [h, h'])
    | isFalse h, _ => isFalse (by simp [h])
    | _, isFalse h => isFalse (by simp [h])

def decEqFields : (a b : List (String × Json)) → Decidable (a = b)
  | [], [] => isTrue rfl
  | [], _ :: _ | _ :: _, [] => isFalse nofun
  | (k, v) :: vs, (l, w) :: ws => match decEq v w, decEqFields vs ws with
    | isTrue h, isTrue h' => decidable_of_iff (k = l) (by simp [h, h'])
    | isFalse h, _ => isFalse (by simp [h])
    | _, isFalse h => isFalse (by simp [h])

end

instance : DecidableEq Json := decEq

-- The value of a field; none if the value is no object or lacks the key.
def field? (key : String) : Json → Option Json
  | obj fields => lookup key fields
  | _ => none

-- Whether the value counts as true: neither null, false, zero nor empty.
def truthy : Json → Bool
  | null => false
  | bool b => b
  | int n => n ≠ 0
  | float x => !x.isZero
  | str s => s ≠ ""
  | arr items => !items.isEmpty
  | obj fields => !fields.isEmpty

end Json

end Enunciado

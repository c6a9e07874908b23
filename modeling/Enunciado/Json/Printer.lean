import Enunciado.Json.Literal

namespace Enunciado

def jsonWords : SpecialWords := ⟨"Infinity".toList, "NaN".toList⟩

namespace Json

def escapeChar (c : Char) : List Char :=
  if c = '"' then ['\\', '"']
  else if c = '\\' then ['\\', '\\']
  else if c = '\n' then ['\\', 'n']
  else if c = '\r' then ['\\', 'r']
  else if c = '\t' then ['\\', 't']
  else if c = '\x08' then ['\\', 'b']
  else if c = '\x0c' then ['\\', 'f']
  else if c.toNat < 0x20 then '\\' :: 'u' :: Text.hexDigits 4 c.toNat
  else [c]

def renderString (s : String) : List Char :=
  '"' :: s.toList.flatMap escapeChar ++ ['"']

def newline (depth : Nat) : List Char :=
  '\n' :: List.replicate (2 * depth) ' '

mutual

-- The value over several lines, as it stands at a depth, and `rest` after it.
def render (depth : Nat) : Json → List Char → List Char
  | null, rest => "null".toList ++ rest
  | bool true, rest => "true".toList ++ rest
  | bool false, rest => "false".toList ++ rest
  | int n, rest => (toString n).toList ++ rest
  | float x, rest => x.decimal jsonWords ++ rest
  | str s, rest => renderString s ++ rest
  | arr [], rest => '[' :: ']' :: rest
  | arr (v :: vs), rest =>
    '[' :: newline (depth + 1) ++
      render (depth + 1) v (renderItems (depth + 1) vs (newline depth ++ ']' :: rest))
  | obj [], rest => '\x7b' :: '\x7d' :: rest
  | obj ((k, v) :: fields), rest =>
    '\x7b' :: newline (depth + 1) ++ (renderString k ++ ':' :: ' ' ::
      render (depth + 1) v (renderFields (depth + 1) fields (newline depth ++ '\x7d' :: rest)))

-- The items after the first, and `rest` after them.
def renderItems (depth : Nat) : List Json → List Char → List Char
  | [], rest => rest
  | v :: vs, rest => ',' :: newline depth ++ render depth v (renderItems depth vs rest)

-- The fields after the first, and `rest` after them.
def renderFields (depth : Nat) : List (String × Json) → List Char → List Char
  | [], rest => rest
  | (k, v) :: fields, rest =>
    ',' :: newline depth ++ (renderString k ++ ':' :: ' ' ::
      render depth v (renderFields depth fields rest))

end

def pretty (v : Json) : String :=
  String.ofList (render 0 v [])

mutual

-- The value in one line, and `rest` after it.
def renderLine : Json → List Char → List Char
  | null, rest => "null".toList ++ rest
  | bool true, rest => "true".toList ++ rest
  | bool false, rest => "false".toList ++ rest
  | int n, rest => (toString n).toList ++ rest
  | float x, rest => x.decimal jsonWords ++ rest
  | str s, rest => renderString s ++ rest
  | arr [], rest => '[' :: ']' :: rest
  | arr (v :: vs), rest => '[' :: renderLine v (lineItems vs (']' :: rest))
  | obj [], rest => '\x7b' :: '\x7d' :: rest
  | obj ((k, v) :: fields), rest =>
    '\x7b' :: renderString k ++ ':' :: renderLine v (lineFields fields ('\x7d' :: rest))

def lineItems : List Json → List Char → List Char
  | [], rest => rest
  | v :: vs, rest => ',' :: renderLine v (lineItems vs rest)

def lineFields : List (String × Json) → List Char → List Char
  | [], rest => rest
  | (k, v) :: fields, rest =>
    ',' :: renderString k ++ ':' :: renderLine v (lineFields fields rest)

end

def compress (v : Json) : String :=
  String.ofList (renderLine v [])

end Json

end Enunciado

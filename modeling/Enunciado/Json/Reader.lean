import Enunciado.Json.Literal

namespace Enunciado.Json

inductive Fault
  | byteOrderMark
  | noValue
  | noPropertyName
  | noColon
  | noComma
  | extraData
  | unterminated
  | controlCharacter
  | badEscape
  | badUnicodeEscape
  | tooManyDigits (count : Nat)
deriving DecidableEq

-- A fault, and where it is: the number of characters before it.
structure ReadError where
  fault : Fault
  position : Nat
deriving DecidableEq

abbrev Stop := Fault × List Char

-- The rest of a text after at least one character.
abbrev Rest (s : List Char) := { r : List Char // r.length < s.length }

def isSpace (c : Char) : Bool :=
  c = ' ' || c = '\t' || c = '\n' || c = '\r'

section Strings

def hexValue? (c : Char) : Option Nat :=
  if '0' ≤ c ∧ c ≤ '9' then some (c.toNat - '0'.toNat)
  else if 'a' ≤ c ∧ c ≤ 'f' then some (c.toNat - 'a'.toNat + 10)
  else if 'A' ≤ c ∧ c ≤ 'F' then some (c.toNat - 'A'.toNat + 10)
  else none

-- The number written by four hexadecimal digits, which are not the last of the text.
def codeUnit? (s : List Char) : Option (Nat × Rest s) :=
  match s with
  | a :: b :: c :: d :: e :: r => do
    let a ← hexValue? a
    let b ← hexValue? b
    let c ← hexValue? c
    let d ← hexValue? d
    return (((a * 16 + b) * 16 + c) * 16 + d, ⟨e :: r, by simp⟩)
  | _ => none

def joinSurrogates (high low : Nat) : Char :=
  Char.ofNat (0x10000 + (high - 0xD800) * 0x400 + (low - 0xDC00))

-- The character of a code unit; half a surrogate pair is none.
def ofCodeUnit (n : Nat) : Char :=
  if 0xD800 ≤ n ∧ n ≤ 0xDFFF then '\ufffd' else Char.ofNat n

-- The character written by the hexadecimal digits at the start of `s`, and by those of a second
-- escape when the first gives only the high half of a pair.
def readUnicode (s : List Char) : Except Stop (Char × Rest s) :=
  match codeUnit? s with
  | none => .error (.badUnicodeEscape, 'u' :: s)
  | some (n, ⟨r, hr⟩) =>
    if 0xD800 ≤ n ∧ n ≤ 0xDBFF then
      match r with
      | '\\' :: 'u' :: t =>
        match codeUnit? t with
        | some (m, ⟨r', hr'⟩) =>
          if 0xDC00 ≤ m ∧ m ≤ 0xDFFF then .ok (joinSurrogates n m, ⟨r', by simp at hr; omega⟩)
          else .ok (ofCodeUnit n, ⟨'\\' :: 'u' :: t, hr⟩)
        | none =>
          if t.length < 5 then .ok (ofCodeUnit n, ⟨'\\' :: 'u' :: t, hr⟩)
          else .error (.badUnicodeEscape, 'u' :: t)
      | r => .ok (ofCodeUnit n, ⟨r, hr⟩)
    else .ok (ofCodeUnit n, ⟨r, hr⟩)

def escaped? : Char → Option Char
  | '"' => some '"'
  | '\\' => some '\\'
  | '/' => some '/'
  | 'b' => some '\x08'
  | 'f' => some '\x0c'
  | 'n' => some '\n'
  | 'r' => some '\r'
  | 't' => some '\t'
  | _ => none

-- The characters of a string up to its closing quote; `opening` is the text from its first quote
-- on, where an unterminated string is reported.
def readString (opening s : List Char) : Except Stop (List Char × Rest s) :=
  match s with
  | [] => .error (.unterminated, opening)
  | '"' :: r => .ok ([], ⟨r, by simp⟩)
  | '\\' :: [] => .error (.unterminated, opening)
  | '\\' :: 'u' :: r =>
    match readUnicode r with
    | .error e => .error e
    | .ok (c, ⟨r', hr⟩) =>
      match readString opening r' with
      | .error e => .error e
      | .ok (cs, ⟨t, ht⟩) => .ok (c :: cs, ⟨t, by simp; omega⟩)
  | '\\' :: e :: r =>
    match escaped? e with
    | none => .error (.badEscape, '\\' :: e :: r)
    | some c =>
      match readString opening r with
      | .error e => .error e
      | .ok (cs, ⟨t, ht⟩) => .ok (c :: cs, ⟨t, by simp; omega⟩)
  | c :: r =>
    if c.toNat < 0x20 then .error (.controlCharacter, c :: r)
    else
      match readString opening r with
      | .error e => .error e
      | .ok (cs, ⟨t, ht⟩) => .ok (c :: cs, ⟨t, by simp; omega⟩)
termination_by s.length

end Strings

section Numbers

-- What is left of a text, perhaps all of it.
abbrev Tail (s : List Char) := { r : List Char // r.length ≤ s.length }

def isDigit (c : Char) : Bool :=
  '0' ≤ c ∧ c ≤ '9'

def digitsValue (s : List Char) : Nat :=
  ofDecimalDigits (s.map fun c => c.toNat - '0'.toNat)

def leadingDigits (s : List Char) : List Char × Tail s :=
  (s.takeWhile isDigit, ⟨s.dropWhile isDigit, (List.dropWhile_sublist _).length_le⟩)

-- A number as it is written: its sign, the digits before and after the point, and the exponent.
structure Numeral where
  negative : Bool
  whole : List Char
  fraction : List Char
  exponent : Option Int

-- The digits before the point: a zero alone, or digits that do not begin with one.
def wholeDigits? (s : List Char) : Option (List Char × Rest s) :=
  match s with
  | [] => none
  | c :: s =>
    if c = '0' then some (['0'], ⟨s, by simp⟩)
    else if isDigit c then
      let (ds, ⟨r, hr⟩) := leadingDigits s
      some (c :: ds, ⟨r, by simp; omega⟩)
    else none

-- The digits after a point; a point without a digit after it is left alone.
def fractionDigits (s : List Char) : List Char × Tail s :=
  match s with
  | '.' :: d :: s =>
    if isDigit d then
      let (ds, ⟨r, hr⟩) := leadingDigits s
      (d :: ds, ⟨r, by simp; omega⟩)
    else ([], ⟨'.' :: d :: s, by simp⟩)
  | s => ([], ⟨s, by simp⟩)

def exponentSign (s : List Char) : Bool × Tail s :=
  match s with
  | '-' :: s => (true, ⟨s, by simp⟩)
  | '+' :: s => (false, ⟨s, by simp⟩)
  | s => (false, ⟨s, by simp⟩)

-- The exponent after a letter for it; a letter without digits after it is left alone.
def exponentPart (s : List Char) : Option Int × Tail s :=
  match s with
  | e :: s =>
    if e = 'e' || e = 'E' then
      let (negative, ⟨t, ht⟩) := exponentSign s
      let (ds, ⟨r, hr⟩) := leadingDigits t
      if ds.isEmpty then (none, ⟨e :: s, by simp⟩)
      else
        let n := digitsValue ds
        (some (if negative then Int.negOfNat n else Int.ofNat n), ⟨r, by simp; omega⟩)
    else (none, ⟨e :: s, by simp⟩)
  | s => (none, ⟨s, by simp⟩)

-- The numeral at the start of a text, without its sign.
def unsigned? (negative : Bool) (s : List Char) : Option (Numeral × Rest s) :=
  match wholeDigits? s with
  | none => none
  | some (whole, ⟨r, hr⟩) =>
    let (fraction, ⟨r, hf⟩) := fractionDigits r
    let (exponent, ⟨r, he⟩) := exponentPart r
    some (⟨negative, whole, fraction, exponent⟩, ⟨r, by omega⟩)

def numeral? (s : List Char) : Option (Numeral × Rest s) :=
  match s with
  | '-' :: s => (unsigned? true s).map fun (n, ⟨r, hr⟩) => (n, ⟨r, by simp; omega⟩)
  | s => unsigned? false s

-- The value of a numeral: a whole number when it has neither fraction nor exponent.
def Numeral.value (n : Numeral) : Except Fault Json :=
  if n.fraction.isEmpty && n.exponent.isNone then
    if maxDigits < n.whole.length then .error (.tooManyDigits n.whole.length)
    else
      let m : Int := digitsValue n.whole
      .ok (.int (if n.negative then -m else m))
  else
    let e := n.exponent.getD 0 - n.fraction.length
    .ok (.float ⟨n.negative, .ofDecimal (digitsValue (n.whole ++ n.fraction)) e⟩)

end Numbers

def word? (s : List Char) : Option (Json × Rest s) :=
  match s with
  | 'n' :: 'u' :: 'l' :: 'l' :: r => some (.null, ⟨r, by simp; omega⟩)
  | 't' :: 'r' :: 'u' :: 'e' :: r => some (.bool true, ⟨r, by simp; omega⟩)
  | 'f' :: 'a' :: 'l' :: 's' :: 'e' :: r => some (.bool false, ⟨r, by simp; omega⟩)
  | 'N' :: 'a' :: 'N' :: r => some (.float .notANumber, ⟨r, by simp; omega⟩)
  | 'I' :: 'n' :: 'f' :: 'i' :: 'n' :: 'i' :: 't' :: 'y' :: r =>
    some (.float ⟨false, .infinity⟩, ⟨r, by simp; omega⟩)
  | '-' :: 'I' :: 'n' :: 'f' :: 'i' :: 'n' :: 'i' :: 't' :: 'y' :: r =>
    some (.float ⟨true, .infinity⟩, ⟨r, by simp; omega⟩)
  | _ => none

-- The string, word or number at the start of a text.
def readScalar (s : List Char) : Except Stop (Json × Rest s) :=
  match s with
  | '"' :: r =>
    match readString ('"' :: r) r with
    | .error e => .error e
    | .ok (cs, ⟨t, ht⟩) => .ok (.str (String.ofList cs), ⟨t, by simp; omega⟩)
  | s =>
    match word? s with
    | some (v, r) => .ok (v, r)
    | none =>
      match numeral? s with
      | none => .error (.noValue, s)
      | some (n, r) => match n.value with
        | .error e => .error (e, s)
        | .ok v => .ok (v, r)

-- An array or object that is still open: what has been read of it, the items backwards, and the
-- key of the field whose value comes next.
inductive Frame
  | items (done : List Json)
  | fields (done : List (String × Json)) (key : String)

-- What has to come next: a value; an item or the end of an array that has just been opened; a
-- field or the end of such an object; a key; a colon; or whatever follows a value that is complete.
inductive Mode
  | value
  | firstItem
  | firstField
  | key (done : List (String × Json))
  | colon (done : List (String × Json)) (key : String)
  | after (v : Json)

-- What is wrong when the text does not hold what has to come next.
def Mode.fault : Mode → Fault
  | value | firstItem => .noValue
  | firstField | key _ => .noPropertyName
  | colon _ _ => .noColon
  | after _ => .noComma

-- The first thing in an array or object that is no end is a value or a key.
def Mode.weight : Mode → Nat
  | firstItem | firstField => 1
  | _ => 0

def read (mode : Mode) (stack : List Frame) (s : List Char) : Except Stop (Json × List Char) :=
  match mode, stack, s with
  | .after v, [], s => .ok (v, s)
  | mode, _, [] => .error (mode.fault, [])
  | mode, stack, c :: s =>
    if isSpace c then read mode stack s
    else match mode with
      | .value =>
        if c = '[' then read .firstItem stack s
        else if c = '\x7b' then read .firstField stack s
        else match readScalar (c :: s) with
          | .error e => .error e
          | .ok (v, ⟨t, _⟩) => read (.after v) stack t
      | .firstItem =>
        if c = ']' then read (.after (.arr [])) stack s
        else read .value (.items [] :: stack) (c :: s)
      | .firstField =>
        if c = '\x7d' then read (.after (.obj [])) stack s
        else read (.key []) stack (c :: s)
      | .key done =>
        if c = '"' then
          match readString (c :: s) s with
          | .error e => .error e
          | .ok (key, ⟨t, _⟩) => read (.colon done (String.ofList key)) stack t
        else .error (.noPropertyName, c :: s)
      | .colon done key =>
        if c = ':' then read .value (.fields done key :: stack) s
        else .error (.noColon, c :: s)
      | .after v =>
        match stack with
        | [] => .ok (v, c :: s)
        | .items done :: stack =>
          if c = ']' then read (.after (.arr (v :: done).reverse)) stack s
          else if c = ',' then read .value (.items (v :: done) :: stack) s
          else .error (.noComma, c :: s)
        | .fields done key :: stack =>
          if c = '\x7d' then read (.after (.obj (put key v done))) stack s
          else if c = ',' then read (.key (put key v done)) stack s
          else .error (.noComma, c :: s)
termination_by (s.length, mode.weight)
decreasing_by
  all_goals simp_all [Prod.lex_def, Mode.weight]
  all_goals omega

def readAll (s : List Char) : Except Stop Json :=
  if s.head? = some '\ufeff' then .error (.byteOrderMark, s)
  else
    match read .value [] s with
    | .error e => .error e
    | .ok (v, r) => match r.dropWhile isSpace with
      | [] => .ok v
      | r => .error (.extraData, r)

def parse (text : String) : Except ReadError Json :=
  let s := text.toList
  match readAll s with
  | .ok v => .ok v
  | .error (fault, rest) => .error ⟨fault, s.length - rest.length⟩

def Fault.message : Fault → String
  | .byteOrderMark => "Unexpected UTF-8 BOM (decode using utf-8-sig)"
  | .noValue => "Expecting value"
  | .noPropertyName => "Expecting property name enclosed in double quotes"
  | .noColon => "Expecting ':' delimiter"
  | .noComma => "Expecting ',' delimiter"
  | .extraData => "Extra data"
  | .unterminated => "Unterminated string starting at"
  | .controlCharacter => "Invalid control character at"
  | .badEscape => "Invalid \\escape"
  | .badUnicodeEscape => "Invalid \\uXXXX escape"
  | .tooManyDigits n =>
    s!"Exceeds the limit ({maxDigits} digits) for integer string conversion: " ++
      s!"value has {n} digits; use sys.set_int_max_str_digits() to increase the limit"

-- The words for an error in a text, with its line and its place in the line, both from 1 on.
def ReadError.message (text : String) (e : ReadError) : String :=
  match e.fault with
  | .tooManyDigits _ => e.fault.message
  | _ =>
    let before := text.toList.take e.position
    let line := before.count '\n' + 1
    let column := (before.reverse.takeWhile (· ≠ '\n')).length + 1
    s!"{e.fault.message}: line {line} column {column} (char {e.position})"

end Enunciado.Json

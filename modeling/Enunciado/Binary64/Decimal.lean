import Enunciado.Binary64.Basic

namespace Enunciado

-- The digits of a number in base ten, without leading zeros; none for zero.
def decimalDigits (n : Nat) : List Nat :=
  if n = 0 then [] else decimalDigits (n / 10) ++ [n % 10]

def ofDecimalDigits (ds : List Nat) : Nat :=
  ds.foldl (fun n d => 10 * n + d) 0

theorem ofDecimalDigits_decimalDigits (n : Nat) : ofDecimalDigits (decimalDigits n) = n := by
  rw [decimalDigits]
  split
  · simp_all [ofDecimalDigits]
  · have := ofDecimalDigits_decimalDigits (n / 10)
    simp only [ofDecimalDigits, List.foldl_append, List.foldl_cons, List.foldl_nil] at this ⊢
    rw [this]; omega
termination_by n
decreasing_by omega

namespace Magnitude

def tenTo (n : Nat) : Nat :=
  Nat.pow 10 n

-- The exponent of ten from which on a number is larger than every finite magnitude, and below
-- minus which it is nearest to zero.
def decimalRange : Nat := 400

-- The magnitude nearest to `n * 10 ^ e`.
def ofDecimal (n : Nat) (e : Int) : Magnitude :=
  let width := (decimalDigits n).length
  match e with
  | .ofNat e =>
    if n = 0 then ⟨0⟩ else if decimalRange ≤ width + e then infinity else ofRatio (n * tenTo e) 1
  | .negSucc e => if width + decimalRange ≤ e then ⟨0⟩ else ofRatio n (tenTo (e + 1))

-- Digits with a point before the first of them, to be moved `point` places to the right.
structure Digits where
  digits : List Nat
  point : Int

-- The positive magnitude times `10 ^ decimalRange`, rounded down.
def enlarged (x : Magnitude) : Nat :=
  x.units * tenTo decimalRange / unitsPerOne

def ofGrid (length c width : Nat) : Magnitude :=
  ofRatio (c * tenTo (length - width)) (tenTo decimalRange)

-- The number of `width` digits that is nearest to the magnitude among those that read back as it;
-- `length` is the number of digits of the enlarged magnitude.
def atWidth? (x : Magnitude) (length width : Nat) : Option Nat :=
  let grid := unitsPerOne * tenTo (length - width)
  let c := x.units * tenTo decimalRange / grid
  let rest := x.units * tenTo decimalRange % grid
  let below := ofGrid length c width = x
  let above := ofGrid length (c + 1) width = x
  if below ∧ above then
    some (if 2 * rest < grid ∨ (2 * rest = grid ∧ c % 2 = 0) then c else c + 1)
  else if below then some c
  else if above then some (c + 1)
  else none

def exactDigits (x : Magnitude) : Digits :=
  let ds := decimalDigits (x.units * Nat.pow 5 1074)
  ⟨ds, ds.length - 1074⟩

-- The digits of the number found at a width, without the zeros at their end.
def digitsAtWidth? (x : Magnitude) (length width : Nat) : Option Digits :=
  (x.atWidth? length width).map fun c =>
    let ds := decimalDigits c
    ⟨(ds.reverse.dropWhile (· = 0)).reverse, length - decimalRange + (ds.length - width : Int)⟩

def shortestDigits (x : Magnitude) : Digits :=
  let length := (decimalDigits x.enlarged).length
  ((List.range 17).findSome? fun i => x.digitsAtWidth? length (i + 1)).getD x.exactDigits

end Magnitude

-- How a decimal number is laid out: the largest point position before an exponent is used, the
-- smallest, and the fewest digits of an exponent.
structure DecimalLayout where
  lastPlain : Int
  firstPlain : Int
  exponentWidth : Nat

-- Numbers from 0.0001 on and below ten to the sixteenth are written without an exponent, and
-- an exponent has two digits or more.
def plainLayout : DecimalLayout := ⟨16, -3, 2⟩

namespace Magnitude

def digitChars (ds : List Nat) : List Char :=
  ds.map Nat.digitChar

def zeros (n : Nat) : List Char :=
  List.replicate n '0'

-- Digits with a point among them; there is a digit on either side of it.
def Digits.plain (d : Digits) : List Char :=
  match d.point with
  | .ofNat p =>
    let n := d.digits.length
    if p = 0 then '0' :: '.' :: digitChars d.digits
    else if n ≤ p then digitChars d.digits ++ zeros (p - n) ++ ['.', '0']
    else digitChars (d.digits.take p) ++ '.' :: digitChars (d.digits.drop p)
  | .negSucc p => '0' :: '.' :: zeros (p + 1) ++ digitChars d.digits

-- Digits with a point after the first of them, if there are more, and an exponent.
def Digits.scientific (layout : DecimalLayout) (d : Digits) : List Char :=
  let e := d.point - 1
  let digits := digitChars (decimalDigits e.natAbs)
  let mantissa := match d.digits with
    | [] => ['0']
    | [a] => digitChars [a]
    | a :: as => digitChars [a] ++ '.' :: digitChars as
  let sign := if e < 0 then '-' else '+'
  mantissa ++ 'e' :: sign :: zeros (layout.exponentWidth - digits.length) ++ digits

-- The fewest digits that read back as the magnitude, and of those the nearest to it.
def decimal (layout : DecimalLayout) (x : Magnitude) : List Char :=
  if x.rank = 0 then ['0', '.', '0']
  else
    let d := x.shortestDigits
    if layout.firstPlain ≤ d.point ∧ d.point ≤ layout.lastPlain then d.plain
    else d.scientific layout

end Magnitude

structure SpecialWords where
  infinity : List Char
  notANumber : List Char

def Binary64.decimal (words : SpecialWords) (x : Binary64) : List Char :=
  if x.isNotANumber then words.notANumber
  else (if x.negative then ['-'] else []) ++
    (if x.isInfinite then words.infinity else x.magnitude.decimal plainLayout)

end Enunciado

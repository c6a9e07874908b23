namespace Enunciado

-- A magnitude by its rank: 0 is zero, 1 the smallest positive magnitude, and so on. The order of
-- magnitudes is that of their ranks, and each is a whole number of the smallest positive one.
structure Magnitude where
  rank : Nat
deriving DecidableEq, Repr

namespace Magnitude

def twoTo (n : Nat) : Nat :=
  Nat.pow 2 n

def infinity : Magnitude :=
  ⟨0x7FF * twoTo 52⟩

def notANumber : Magnitude :=
  ⟨0x7FF * twoTo 52 + twoTo 51⟩

def significand (x : Magnitude) : Nat :=
  if x.rank < twoTo 52 then x.rank else twoTo 52 + x.rank % twoTo 52

def scale (x : Magnitude) : Nat :=
  x.rank / twoTo 52 - 1

-- How many of the smallest positive magnitude make up one.
def unitsPerOne : Nat :=
  twoTo 1074

-- The value of a finite magnitude, as a multiple of the smallest positive one.
def units (x : Magnitude) : Nat :=
  x.significand * twoTo x.scale

-- The whole number nearest to `n / d`; of two that are equally near, the even one.
def divNearest (n d : Nat) : Nat :=
  if 2 * (n % d) < d ∨ (2 * (n % d) = d ∧ n / d % 2 = 0) then n / d else n / d + 1

-- The magnitude nearest to `n / d` units; of two that are equally near, the one of even rank.
-- The significand has 53 bits, or fewer at the lowest scale.
def nearestUnits (n d : Nat) : Magnitude :=
  let k := Nat.log2 (n / d) - 52
  ⟨min (k * twoTo 52 + divNearest n (d * twoTo k)) infinity.rank⟩

def ofRatio (n d : Nat) : Magnitude :=
  nearestUnits (n * unitsPerOne) d

def add (x y : Magnitude) : Magnitude :=
  nearestUnits (x.units + y.units) 1

def times (x : Magnitude) (n : Nat) : Magnitude :=
  nearestUnits (x.units * n) 1

def divide (x : Magnitude) (n : Nat) : Magnitude :=
  nearestUnits x.units n

instance : LT Magnitude := ⟨fun x y => x.rank < y.rank⟩
instance : LE Magnitude := ⟨fun x y => x.rank ≤ y.rank⟩
instance (x y : Magnitude) : Decidable (x < y) := inferInstanceAs (Decidable (x.rank < y.rank))
instance (x y : Magnitude) : Decidable (x ≤ y) := inferInstanceAs (Decidable (x.rank ≤ y.rank))

theorem lt_iff {x y : Magnitude} : x < y ↔ x.rank < y.rank := Iff.rfl
theorem le_iff {x y : Magnitude} : x ≤ y ↔ x.rank ≤ y.rank := Iff.rfl

theorem not_lt {x y : Magnitude} : ¬x < y ↔ y ≤ x := by
  simp [lt_iff, le_iff]

end Magnitude

structure Binary64 where
  negative : Bool
  magnitude : Magnitude
deriving DecidableEq, Repr

namespace Binary64

def notANumber : Binary64 := ⟨false, .notANumber⟩

def isNotANumber (x : Binary64) : Bool :=
  Magnitude.infinity < x.magnitude

def isInfinite (x : Binary64) : Bool :=
  x.magnitude = .infinity

def isZero (x : Binary64) : Bool :=
  x.magnitude.rank = 0

-- The bits of the number: its sign, and the rank of its magnitude.
def bits (x : Binary64) : Nat :=
  (if x.negative then Magnitude.twoTo 63 else 0) + x.magnitude.rank

-- The value of a finite number, as a multiple of the smallest positive one.
def units (x : Binary64) : Int :=
  if x.negative then -(x.magnitude.units : Int) else x.magnitude.units

end Binary64

end Enunciado

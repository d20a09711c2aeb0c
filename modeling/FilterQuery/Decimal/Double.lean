/-!
# Doubles

A double is kept as its 64 bits, so that equality of values is decidable and a number that is read
is written back unchanged. Reading a decimal rounds to the nearest double.
-/

namespace FilterQuery.Decimal

abbrev twoTo (n : Nat) : Nat := Nat.pow 2 n

abbrev tenTo (n : Nat) : Nat := Nat.pow 10 n

/-- A double-precision number, by its bits. -/
structure Double where
  bits : UInt64
deriving DecidableEq, Inhabited

namespace Double

/-- What the bits of a double say, its sign aside. -/
inductive Magnitude where
  | zero
  /-- The number `m · 2 ^ q`, with `m` positive. -/
  | finite (m : Nat) (q : Int)
  | infinite
  | notANumber
deriving DecidableEq

def isNegative (x : Double) : Bool := twoTo 63 ≤ x.bits.toNat

def magnitude (x : Double) : Magnitude :=
  let fraction : Nat := x.bits.toNat % twoTo 52
  let exponent : Nat := x.bits.toNat / twoTo 52 % twoTo 11
  if exponent = 2047 then (if fraction = 0 then .infinite else .notANumber)
  else if exponent = 0 then (if fraction = 0 then .zero else .finite fraction (-1074))
  else .finite (twoTo 52 + fraction) (exponent - 1075)

def isZero (x : Double) : Bool := x.magnitude = .zero

/-- The integer that a double is, if it is one. -/
def toInt? (x : Double) : Option Int :=
  let signed (n : Nat) : Int := if x.isNegative then -n else n
  match x.magnitude with
  | .zero => some 0
  | .finite m q =>
      if 0 ≤ q then some (signed (m * twoTo q.toNat))
      else if m % twoTo q.natAbs = 0 then some (signed (m / twoTo q.natAbs))
      else none
  | .infinite | .notANumber => none

/-- The double nearest to `m · 10 ^ e`, negated on demand. -/
def ofDecimal (negative : Bool) (m : Nat) (e : Int) : Double :=
  let x := if e < 0 then Float.ofScientific m true e.natAbs else Float.ofScientific m false e.toNat
  ⟨(if negative then -x else x).toBits⟩

def infinity (negative : Bool) : Double :=
  if negative then ⟨0xFFF0000000000000⟩ else ⟨0x7FF0000000000000⟩

def nan : Double := ⟨0x7FF8000000000000⟩

end Double

end FilterQuery.Decimal

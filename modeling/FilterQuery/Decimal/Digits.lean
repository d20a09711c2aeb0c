/-!
# Decimal digits

Integers are read from decimal and written in decimal up to a number of digits. Longer ones are not
read or written at all, so nobody has to wait for them.
-/

namespace FilterQuery.Decimal

/-- Decimal integers are read and written up to this number of digits. -/
def maxDigits : Nat := 4300

/-- The least number that has more decimal digits than are written, ten to the power of their
number. -/
def leastLong : Nat := Nat.pow 10 maxDigits

/-- Whether an integer has more decimal digits than are written; a sign does not count. -/
def isLong (n : Int) : Bool := leastLong ≤ n.natAbs

theorem isLong_eq_false_iff {n : Int} : isLong n = false ↔ n.natAbs < leastLong := by
  simp [isLong]

def digitValue (c : Char) : Nat := c.toNat - '0'.toNat

/-- The number that some decimal digits stand for, or how many there are if they are too many. -/
def ofDigits (digits : List Char) : Except Nat Nat :=
  if maxDigits < digits.length then .error digits.length
  else .ok (digits.foldl (fun n c => 10 * n + digitValue c) 0)

end FilterQuery.Decimal

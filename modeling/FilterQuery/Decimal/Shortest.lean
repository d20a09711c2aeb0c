import FilterQuery.Decimal.Double

/-!
# The shortest decimal that reads back

For a positive number `m · 2 ^ q` the decimals that round to it form an interval, closed when `m` is
even. The digits written are the first grid of 1, 2, …, 17 digits that has a point in it, and of two
such points the one nearer to the number.
-/

namespace FilterQuery.Decimal

/-- The decimal `digits · 10 ^ scale`. -/
structure Scaled where
  digits : Nat
  scale : Int
deriving DecidableEq

/-- The interval of numbers that round to `m · 2 ^ q`; all four numerators are over `den`. -/
structure Interval where
  low : Nat
  mid : Nat
  high : Nat
  den : Nat
  closed : Bool

def Interval.ofBinary (m : Nat) (q : Int) : Interval :=
  let narrow := m = twoTo 52 && q ≠ -1074
  let up := twoTo q.toNat
  { low := (4 * m - (if narrow then 1 else 2)) * up
    mid := 4 * m * up
    high := (4 * m + 2) * up
    den := 4 * twoTo (-q).toNat
    closed := m % 2 = 0 }

/-- The exponent `e` with `10 ^ e ≤ num / den < 10 ^ (e + 1)`. -/
def decimalExponent (num den : Nat) : Int :=
  if den ≤ num then ((Nat.toDigits 10 (num / den)).length : Int) - 1
  else match (List.range 400).find? fun j => den ≤ num * tenTo j with
    | some j => -(j : Int)
    | none => 0

/-- Whether `digits · 10 ^ scale` lies in the interval. -/
def Interval.contains (i : Interval) (d : Scaled) : Bool :=
  let point := d.digits * tenTo d.scale.toNat * i.den
  let unit := tenTo (-d.scale).toNat
  if i.closed then i.low * unit ≤ point && point ≤ i.high * unit
  else i.low * unit < point && point < i.high * unit

/-- The point of the grid of `n` digits that lies in the interval and is nearest to its middle. -/
def Interval.onGrid (i : Interval) (e : Int) (n : Nat) : Option Scaled :=
  let scale := e - n + 1
  let num := i.mid * tenTo (-scale).toNat
  let den := i.den * tenTo scale.toNat
  let below := num / den
  let rest := num % den
  match i.contains ⟨below, scale⟩, i.contains ⟨below + 1, scale⟩ with
  | true, true =>
      if 2 * rest < den || (2 * rest = den && below % 2 = 0) then some ⟨below, scale⟩
      else some ⟨below + 1, scale⟩
  | true, false => some ⟨below, scale⟩
  | false, true => some ⟨below + 1, scale⟩
  | false, false => none

/-- The shortest decimal that rounds to `m · 2 ^ q`. -/
def shortest (m : Nat) (q : Int) : Scaled :=
  let i := Interval.ofBinary m q
  let e := decimalExponent i.mid i.den
  ((List.range 17).findSome? fun n => i.onGrid e (n + 1)).getD ⟨0, 0⟩

/-! ## Writing -/

/-- Digits without the zeros at their end; there are none left of zero. -/
def significant (d : Scaled) : List Char :=
  ((Nat.toDigits 10 d.digits).reverse.dropWhile (· = '0')).reverse

/-- Numbers from `10 ^ -4` up to `10 ^ 16` are written positionally and with at least one decimal
place, all others with an exponent of at least two digits. -/
def Scaled.text (d : Scaled) : String :=
  let ds := significant d
  let point : Int := (Nat.toDigits 10 d.digits).length + d.scale
  String.ofList <|
    if -3 ≤ point && point ≤ 16 then
      if point ≤ 0 then '0' :: '.' :: List.replicate (-point).toNat '0' ++ ds
      else
        let whole := ds.take point.toNat
        let places := ds.drop point.toNat
        whole ++ List.replicate (point.toNat - whole.length) '0' ++ '.' ::
          (if places.isEmpty then ['0'] else places)
    else
      let mantissa := match ds with
        | d :: d' :: rest => d :: '.' :: d' :: rest
        | ds => ds
      let e := point - 1
      let size := Nat.toDigits 10 e.natAbs
      mantissa ++ 'e' :: (if e < 0 then '-' else '+') :: List.replicate (2 - size.length) '0' ++ size

/-- The text of a double: the shortest decimal that reads back as it. -/
def Double.text (x : Double) : String :=
  let sign := if x.isNegative then "-" else ""
  match x.magnitude with
  | .zero => sign ++ "0.0"
  | .finite m q => sign ++ (shortest m q).text
  | .infinite => sign ++ "inf"
  | .notANumber => "nan"

end FilterQuery.Decimal

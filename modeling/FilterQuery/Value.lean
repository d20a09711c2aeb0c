import FilterQuery.Decimal.Double

/-!
# Values

Data whose shape nobody has checked yet: the contents of a configuration document, the position a
host attaches to a token, an argument given in the place of a strategy. Tables keep their entries
in the order they were written in.
-/

namespace FilterQuery

open Decimal (Double)

/-- A date and a time of day, each optional, with an optional offset from UTC in minutes. -/
structure Moment where
  date : Option (Nat × Nat × Nat)
  /-- Hour, minute, second and microsecond. -/
  time : Option (Nat × Nat × Nat × Nat)
  offset : Option Int
deriving DecidableEq

inductive Value where
  | null
  | bool (b : Bool)
  | int (n : Int)
  | float (x : Double)
  | str (s : String)
  | moment (t : Moment)
  | list (items : List Value)
  | table (entries : List (String × Value))
deriving Inhabited

namespace Value

/-! ## Equality is decidable -/

mutual

def decEq : (a b : Value) → Decidable (a = b)
  | .null, .null => isTrue rfl
  | .bool a, .bool b => decidable_of_iff (a = b) (by simp)
  | .int a, .int b => decidable_of_iff (a = b) (by simp)
  | .float a, .float b => decidable_of_iff (a = b) (by simp)
  | .str a, .str b => decidable_of_iff (a = b) (by simp)
  | .moment a, .moment b => decidable_of_iff (a = b) (by simp)
  | .list as, .list bs => match decEqList as bs with
      | isTrue h => isTrue (by rw [h])
      | isFalse h => isFalse (by simpa using h)
  | .table as, .table bs => match decEqEntries as bs with
      | isTrue h => isTrue (by rw [h])
      | isFalse h => isFalse (by simpa using h)
  | .null, .bool _ | .null, .int _ | .null, .float _ | .null, .str _ | .null, .moment _
  | .null, .list _ | .null, .table _ | .bool _, .null | .bool _, .int _ | .bool _, .float _
  | .bool _, .str _ | .bool _, .moment _ | .bool _, .list _ | .bool _, .table _ | .int _, .null
  | .int _, .bool _ | .int _, .float _ | .int _, .str _ | .int _, .moment _ | .int _, .list _
  | .int _, .table _ | .float _, .null | .float _, .bool _ | .float _, .int _ | .float _, .str _
  | .float _, .moment _ | .float _, .list _ | .float _, .table _ | .str _, .null | .str _, .bool _
  | .str _, .int _ | .str _, .float _ | .str _, .moment _ | .str _, .list _ | .str _, .table _
  | .moment _, .null | .moment _, .bool _ | .moment _, .int _ | .moment _, .float _
  | .moment _, .str _ | .moment _, .list _ | .moment _, .table _ | .list _, .null | .list _, .bool _
  | .list _, .int _ | .list _, .float _ | .list _, .str _ | .list _, .moment _ | .list _, .table _
  | .table _, .null | .table _, .bool _ | .table _, .int _ | .table _, .float _ | .table _, .str _
  | .table _, .moment _ | .table _, .list _ => isFalse (by simp)

def decEqList : (as bs : List Value) → Decidable (as = bs)
  | [], [] => isTrue rfl
  | [], _ :: _ | _ :: _, [] => isFalse (by simp)
  | a :: as, b :: bs => match decEq a b, decEqList as bs with
      | isTrue h, isTrue h' => isTrue (by rw [h, h'])
      | isFalse h, _ => isFalse (by simp [h])
      | _, isFalse h => isFalse (by simp [h])

def decEqEntries : (as bs : List (String × Value)) → Decidable (as = bs)
  | [], [] => isTrue rfl
  | [], _ :: _ | _ :: _, [] => isFalse (by simp)
  | (k, a) :: as, (l, b) :: bs =>
      if hk : k = l then match decEq a b, decEqEntries as bs with
        | isTrue h, isTrue h' => isTrue (by rw [hk, h, h'])
        | isFalse h, _ => isFalse (by simp [h])
        | _, isFalse h => isFalse (by simp [h])
      else isFalse (by simp [hk])

end

instance : DecidableEq Value := decEq

/-! ## Looking at values -/

/-- What counts as no: null, false, zero, and whatever is empty. -/
def isFalsy : Value → Bool
  | .null => true
  | .bool b => !b
  | .int n => n == 0
  | .float x => x.isZero
  | .str s => s.isEmpty
  | .moment _ => false
  | .list items => items.isEmpty
  | .table entries => entries.isEmpty

def isTruthy (v : Value) : Bool := !v.isFalsy

/-- How many characters, items or entries a value has. -/
def length? : Value → Option Nat
  | .str s => some s.length
  | .list items => some items.length
  | .table entries => some entries.length
  | _ => none

/-- The integer that a number is; truth values count as zero and one. -/
def integer? : Value → Option Int
  | .bool b => some (if b then 1 else 0)
  | .int n => some n
  | .float x => x.toInt?
  | _ => none

/-- Whether a value can be a key of a table. -/
def isKey : Value → Bool
  | .list _ | .table _ => false
  | _ => true

/-- Whether two values are the same key of a table: numbers are compared by what they are. -/
def isSameKey (a b : Value) : Bool :=
  a == b || (a.integer?.isSome && a.integer? == b.integer?)

/-- The string a value is, if it is one. -/
def string? : Value → Option String
  | .str s => some s
  | _ => none

/-- Integers count as themselves and true as one; every other value counts as zero. -/
def rank : Value → Int
  | .int n => n
  | .bool true => 1
  | _ => 0

end Value

/-- The entries of a table, in order. -/
abbrev Entries := List (String × Value)

namespace Entries

def without (es : Entries) (key : String) : Entries := es.filter (·.1 != key)

/-- The entries with one more; a key that is there keeps its place and takes the new value. -/
def put (es : Entries) (key : String) (v : Value) : Entries :=
  if es.any (·.1 == key) then es.map fun e => if e.1 == key then (key, v) else e
  else es ++ [(key, v)]

end Entries

end FilterQuery

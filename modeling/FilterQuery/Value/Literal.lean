import FilterQuery.Decimal.Digits
import FilterQuery.Decimal.Shortest
import FilterQuery.Text.Printable
import FilterQuery.Value

/-!
# Literals

The text of a value in messages. Strings stand in single quotes, unless they hold a single quote and
no double quote; what cannot be printed is escaped by its code point in two, four or eight
hexadecimal digits. Not every value can be written: integers may have too many digits, and lists and
tables may stand inside one another too deep.
-/

namespace FilterQuery

/-- Why a value cannot be written. -/
inductive Unwritable where
  /-- An integer has more digits than are written. -/
  | longInteger
  /-- Lists and tables stand inside one another too deep. -/
  | tooDeep
deriving DecidableEq

/-! ## Strings -/

/-- `n` in hexadecimal, with zeros in front up to `width` digits. -/
def hexDigits (width n : Nat) : List Char :=
  let ds := Nat.toDigits 16 n
  List.replicate (width - ds.length) '0' ++ ds

def literalChar (mark c : Char) : List Char :=
  if c = '\\' || c = mark then ['\\', c]
  else if c = '\n' then ['\\', 'n']
  else if c = '\r' then ['\\', 'r']
  else if c = '\t' then ['\\', 't']
  else if Text.isPrintable c then [c]
  else if c.toNat < 0x100 then '\\' :: 'x' :: hexDigits 2 c.toNat
  else if c.toNat < 0x10000 then '\\' :: 'u' :: hexDigits 4 c.toNat
  else '\\' :: 'U' :: hexDigits 8 c.toNat

/-- A string as it is quoted in messages. -/
def literalString (s : String) : String :=
  let cs := s.toList
  let mark := if cs.contains '\'' && !cs.contains '"' then '"' else '\''
  String.ofList (mark :: cs.flatMap (literalChar mark) ++ [mark])

/-- A list of strings as it is quoted in messages. -/
def literalNames (names : List String) : String :=
  "[" ++ ", ".intercalate (names.map literalString) ++ "]"

/-! ## Dates and times -/

namespace Moment

def offsetLiteral (minutes : Int) : String :=
  if minutes = 0 then "datetime.timezone.utc"
  else
    let seconds := minutes * 60
    let days := if seconds < 0 then "days=-1, " else ""
    "datetime.timezone(datetime.timedelta(" ++ days ++ "seconds=" ++
      toString (seconds % 86400) ++ "))"

/-- Seconds and microseconds are left out when nothing but zeros follows. -/
def timeParts : Nat × Nat × Nat × Nat → List Nat
  | (h, m, s, us) =>
      if us ≠ 0 then [h, m, s, us] else if s ≠ 0 then [h, m, s] else [h, m]

def literal (t : Moment) : String :=
  let name := match t.date, t.time with
    | some _, some _ => "datetime"
    | some _, none => "date"
    | none, _ => "time"
  let date := match t.date with
    | some (y, m, d) => [y, m, d]
    | none => []
  let time := match t.time with
    | some parts => timeParts parts
    | none => []
  let zone := match t.offset with
    | some minutes => ["tzinfo=" ++ offsetLiteral minutes]
    | none => []
  "datetime." ++ name ++ "(" ++ ", ".intercalate ((date ++ time).map toString ++ zone) ++ ")"

/-- `n` in decimal, with zeros in front up to `width` digits. -/
def padded (width n : Nat) : String :=
  let ds := Nat.toDigits 10 n
  String.ofList (List.replicate (width - ds.length) '0' ++ ds)

/-- The date, the time and the offset, as they are written outside messages. -/
def text (t : Moment) : String :=
  let date := t.date.map fun (y, m, d) => padded 4 y ++ "-" ++ padded 2 m ++ "-" ++ padded 2 d
  let time := t.time.map fun (h, m, s, us) =>
    padded 2 h ++ ":" ++ padded 2 m ++ ":" ++ padded 2 s ++
      (if us = 0 then "" else "." ++ padded 6 us)
  let zone := match t.offset with
    | some minutes =>
        (if minutes < 0 then "-" else "+") ++ padded 2 (minutes.natAbs / 60) ++ ":" ++
          padded 2 (minutes.natAbs % 60)
    | none => ""
  " ".intercalate (date.toList ++ time.toList) ++ zone

end Moment

/-! ## Values -/

namespace Value

mutual

/-- The text of a value in messages. -/
def literal : Value → String
  | .null => "None"
  | .bool b => if b then "True" else "False"
  | .int n => toString n
  | .float x => x.text
  | .str s => literalString s
  | .moment t => t.literal
  | .list items => "[" ++ ", ".intercalate (literalItems items) ++ "]"
  | .table entries => "\x7b" ++ ", ".intercalate (literalEntries entries) ++ "\x7d"

def literalItems : List Value → List String
  | [] => []
  | v :: vs => v.literal :: literalItems vs

def literalEntries : List (String × Value) → List String
  | [] => []
  | (k, v) :: es => (literalString k ++ ": " ++ v.literal) :: literalEntries es

end

/-- The text of a value as such: strings stand for themselves. -/
def text : Value → String
  | .str s => s
  | .moment t => t.text
  | v => v.literal

mutual

/-- What comes up first when a value is written, where so many lists and tables may stand inside one
another. Empty ones count no more than other values do. -/
def unwritable? : (depth : Nat) → Value → Option Unwritable
  | _, .int n => if Decimal.isLong n then some .longInteger else none
  | depth, .list items => unwritableItems? depth items
  | depth, .table entries => unwritableEntries? depth entries
  | _, _ => none

def unwritableItems? : (depth : Nat) → List Value → Option Unwritable
  | _, [] => none
  | 0, _ :: _ => some .tooDeep
  | depth + 1, v :: vs => (v.unwritable? depth).or (unwritableItems? (depth + 1) vs)

def unwritableEntries? : (depth : Nat) → List (String × Value) → Option Unwritable
  | _, [] => none
  | 0, _ :: _ => some .tooDeep
  | depth + 1, (_, v) :: es => (v.unwritable? depth).or (unwritableEntries? (depth + 1) es)

end

@[simp] theorem unwritable?_str (depth : Nat) (s : String) : (str s).unwritable? depth = none := rfl

@[simp] theorem unwritable?_null (depth : Nat) : null.unwritable? depth = none := rfl

end Value

end FilterQuery

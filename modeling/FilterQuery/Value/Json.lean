import FilterQuery.Value.Literal

/-!
# JSON text

The text of a value as one line of JSON in ASCII. Other characters are escaped by their UTF-16
units, so a character outside the basic plane takes two escapes. A moment is written as the string
of its text.
-/

namespace FilterQuery

/-! ## Strings -/

/-- The UTF-16 units of a character: one, or a surrogate pair. -/
def utf16Units (c : Char) : List Nat :=
  let n := c.toNat
  if n < 0x10000 then [n]
  else [0xD800 + (n - 0x10000) / 0x400, 0xDC00 + (n - 0x10000) % 0x400]

def jsonChar (c : Char) : List Char :=
  if c = '"' || c = '\\' then ['\\', c]
  else if c = '\n' then ['\\', 'n']
  else if 32 ≤ c.toNat && c.toNat < 127 then [c]
  else (utf16Units c).flatMap fun n => '\\' :: 'u' :: hexDigits 4 n

/-- A string between quotes, escaped. -/
def jsonString (s : String) : String := String.ofList ('"' :: s.toList.flatMap jsonChar ++ ['"'])

/-! ## Values -/

/-- A number; what is no number is written by its name. -/
def jsonFloat (x : Decimal.Double) : String :=
  match x.magnitude with
  | .infinite => if x.isNegative then "-Infinity" else "Infinity"
  | .notANumber => "NaN"
  | _ => x.text

namespace Value

mutual

/-- The JSON text of a value. -/
def json : Value → String
  | .null => "null"
  | .bool b => if b then "true" else "false"
  | .int n => toString n
  | .float x => jsonFloat x
  | .str s => jsonString s
  | .moment t => jsonString t.text
  | .list items => "[" ++ ",".intercalate (jsonItems items) ++ "]"
  | .table entries => "\x7b" ++ ",".intercalate (jsonEntries entries) ++ "\x7d"

def jsonItems : List Value → List String
  | [] => []
  | v :: vs => v.json :: jsonItems vs

def jsonEntries : List (String × Value) → List String
  | [] => []
  | (k, v) :: es => (jsonString k ++ ":" ++ v.json) :: jsonEntries es

end

end Value

end FilterQuery

import FilterQuery.Decimal.Digits
import FilterQuery.Value

/-!
# TOML scalars

Strings, numbers and dates of TOML 1.0. A reader takes the text at a place and gives what it read
and the text after it, or nothing if the text is not well-formed. A well-formed text may still go
beyond the limits of what is read.
-/

namespace FilterQuery.Toml

abbrev Reader (α : Type) := List Char → Option (α × List Char)

/-- Why a text is not read. -/
inductive Problem where
  | malformed
  /-- A decimal integer has so many digits, more than are read. -/
  | longInteger (digits : Nat)
  /-- Arrays and inline tables stand inside one another deeper than they are read. -/
  | tooDeep
deriving DecidableEq

/-- What a reader gives, where nothing means that the text is not well-formed. -/
def orMalformed {α : Type} : Option α → Except Problem α
  | some a => .ok a
  | none => .error .malformed

/-! ## Characters -/

def isSpace (c : Char) : Bool := c = ' ' || c = '\t'

def isSpaceOrNewline (c : Char) : Bool := isSpace c || c = '\n'

/-- Control characters may not be written, tabs excepted. -/
def isControl (c : Char) : Bool := (c.toNat < 32 && c ≠ '\t') || c.toNat = 127

def isHexDigit (c : Char) : Bool := c.isDigit || ('a' ≤ c && c ≤ 'f') || ('A' ≤ c && c ≤ 'F')

def hexValue (c : Char) : Nat :=
  if c.isDigit then c.toNat - '0'.toNat
  else if 'a' ≤ c then c.toNat - 'a'.toNat + 10
  else c.toNat - 'A'.toNat + 10

/-- The number that some digits stand for in a base. -/
def numberOf (base : Nat) (digits : List Char) : Nat :=
  digits.foldl (fun n c => n * base + hexValue c) 0

/-! ## Strings -/

/-- What a letter after a backslash stands for. -/
def escaped? : Char → Option Char
  | 'b' => some '\x08'
  | 't' => some '\t'
  | 'n' => some '\n'
  | 'f' => some '\x0c'
  | 'r' => some '\r'
  | '"' => some '"'
  | '\\' => some '\\'
  | _ => none

/-- The character of a hexadecimal escape. -/
def scalar? (digits : List Char) : Option Char :=
  let n := numberOf 16 digits
  if digits.all isHexDigit && n.isValidChar then some (Char.ofNat n) else none

/-- Where a reader of a string stands: in its text, between a backslash and the end of its line, or
in the blanks after such a line. -/
inductive StringPlace where
  | text
  | lineEnd
  | blank

/-- The rest of a string in double quotes, up to its end. -/
def basicString (multiline : Bool) : StringPlace → Reader (List Char)
  | _, [] => none
  | .lineEnd, c :: cs =>
      if c = '\n' then basicString multiline .blank cs
      else if isSpace c then basicString multiline .lineEnd cs
      else none
  | place, c :: cs =>
      if place matches .blank && isSpaceOrNewline c then basicString multiline .blank cs
      else match multiline, c, cs with
        | false, '"', cs => some ([], cs)
        | true, '"', '"' :: '"' :: cs => some ([], cs)
        | _, '\\', 'u' :: h₁ :: h₂ :: h₃ :: h₄ :: cs => do
            let d ← scalar? [h₁, h₂, h₃, h₄]
            let (ds, rest) ← basicString multiline .text cs
            some (d :: ds, rest)
        | _, '\\', 'U' :: h₁ :: h₂ :: h₃ :: h₄ :: h₅ :: h₆ :: h₇ :: h₈ :: cs => do
            let d ← scalar? [h₁, h₂, h₃, h₄, h₅, h₆, h₇, h₈]
            let (ds, rest) ← basicString multiline .text cs
            some (d :: ds, rest)
        | _, '\\', e :: cs =>
            if multiline && e = '\n' then basicString multiline .blank cs
            else if multiline && isSpace e then basicString multiline .lineEnd cs
            else do
              let d ← escaped? e
              let (ds, rest) ← basicString multiline .text cs
              some (d :: ds, rest)
        | _, '\\', [] => none
        | _, c, cs =>
            if isControl c && !(multiline && c = '\n') then none
            else do
              let (ds, rest) ← basicString multiline .text cs
              some (c :: ds, rest)

/-- The rest of a string in single quotes, up to its end. -/
def literalString (multiline : Bool) : Reader (List Char)
  | [] => none
  | c :: cs =>
      match multiline, c, cs with
      | false, '\'', cs => some ([], cs)
      | true, '\'', '\'' :: '\'' :: cs => some ([], cs)
      | _, c, cs =>
          if isControl c && !(multiline && c = '\n') then none
          else do
            let (ds, rest) ← literalString multiline cs
            some (c :: ds, rest)

/-- Up to two more quotes belong to a string of several lines that ends with more than three. -/
def trailingQuotes (quote : Char) (text rest : List Char) : List Char × List Char :=
  let extra := (rest.take 2).takeWhile (· = quote)
  (text ++ extra, rest.drop extra.length)

/-- A line feed just after the opening quotes does not count. -/
def skipNewline : List Char → List Char
  | '\n' :: cs => cs
  | cs => cs

/-- A string of any of the four kinds. -/
def string : Reader String
  | '"' :: '"' :: '"' :: cs => do
      let (text, rest) ← basicString true .text (skipNewline cs)
      let (text, rest) := trailingQuotes '"' text rest
      some (String.ofList text, rest)
  | '"' :: cs => do
      let (text, rest) ← basicString false .text cs
      some (String.ofList text, rest)
  | '\'' :: '\'' :: '\'' :: cs => do
      let (text, rest) ← literalString true (skipNewline cs)
      let (text, rest) := trailingQuotes '\'' text rest
      some (String.ofList text, rest)
  | '\'' :: cs => do
      let (text, rest) ← literalString false cs
      some (String.ofList text, rest)
  | _ => none

/-! ## Numbers -/

/-- More digits after a first one, each with at most one underscore before it. -/
def moreDigits (isDigit : Char → Bool) : List Char → List Char × List Char
  | '_' :: c :: cs =>
      if isDigit c then
        let (ds, rest) := moreDigits isDigit cs
        (c :: ds, rest)
      else ([], '_' :: c :: cs)
  | c :: cs =>
      if isDigit c then
        let (ds, rest) := moreDigits isDigit cs
        (c :: ds, rest)
      else ([], c :: cs)
  | [] => ([], [])

/-- At least one digit. -/
def digits (isDigit : Char → Bool) : Reader (List Char)
  | c :: cs =>
      if isDigit c then
        let (ds, rest) := moreDigits isDigit cs
        some (c :: ds, rest)
      else none
  | [] => none

def signOf : List Char → Bool × List Char
  | '-' :: cs => (true, cs)
  | '+' :: cs => (false, cs)
  | cs => (false, cs)

/-- An integer with a base, in lower-case letters. -/
def basedInteger : Reader Value
  | '0' :: 'x' :: cs => do
      let (ds, rest) ← digits isHexDigit cs
      some (.int (numberOf 16 ds), rest)
  | '0' :: 'b' :: cs => do
      let (ds, rest) ← digits (fun c => c = '0' || c = '1') cs
      some (.int (numberOf 2 ds), rest)
  | '0' :: 'o' :: cs => do
      let (ds, rest) ← digits (fun c => '0' ≤ c && c ≤ '7') cs
      some (.int (numberOf 8 ds), rest)
  | _ => none

/-- The digits of a decimal integer; a zero stands alone. -/
def integerDigits : Reader (List Char)
  | '0' :: cs => some (['0'], cs)
  | cs => digits Char.isDigit cs

/-- The places after a point, if there are any. -/
def fraction : List Char → List Char × List Char
  | '.' :: cs => (digits Char.isDigit cs).getD ([], '.' :: cs)
  | cs => ([], cs)

/-- The exponent, if there is one. -/
def exponent (cs : List Char) : Option Int × List Char :=
  match cs with
  | e :: after =>
      if e = 'e' || e = 'E' then
        let (negative, after) := signOf after
        match digits Char.isDigit after with
        | some (ds, rest) =>
            let n : Int := numberOf 10 ds
            (some (if negative then -n else n), rest)
        | none => (none, cs)
      else (none, cs)
  | [] => (none, cs)

/-- A decimal number as it is written. -/
structure Numeral where
  negative : Bool
  whole : List Char
  places : List Char
  exponent : Option Int

/-- A decimal integer or float. -/
def numeral (cs : List Char) : Option (Numeral × List Char) := do
  let (negative, cs) := signOf cs
  let (whole, cs) ← integerDigits cs
  let (places, cs) := fraction cs
  let (exponent, cs) := exponent cs
  some (⟨negative, whole, places, exponent⟩, cs)

/-- The number that a numeral stands for. Without places and exponent it is an integer. -/
def Numeral.value (n : Numeral) : Except Problem Value :=
  if n.places.isEmpty && n.exponent.isNone then
    match Decimal.ofDigits n.whole with
    | .ok m => .ok (.int (if n.negative then -(m : Int) else m))
    | .error digits => .error (.longInteger digits)
  else
    let m := numberOf 10 (n.whole ++ n.places)
    .ok (.float (.ofDecimal n.negative m (n.exponent.getD 0 - n.places.length)))

/-- Infinity or no number at all. -/
def specialFloat (cs : List Char) : Option (Value × List Char) :=
  let (negative, rest) := signOf cs
  match rest with
  | 'i' :: 'n' :: 'f' :: rest => some (.float (.infinity negative), rest)
  | 'n' :: 'a' :: 'n' :: rest => some (.float .nan, rest)
  | _ => none

/-! ## Dates and times -/

/-- Exactly two digits that make a number in a range. -/
def twoDigits (low high : Nat) : Reader Nat
  | a :: b :: cs =>
      let n := numberOf 10 [a, b]
      if a.isDigit && b.isDigit && low ≤ n && n ≤ high then some (n, cs) else none
  | _ => none

def isLeapYear (y : Nat) : Bool := (y % 4 = 0 && y % 100 ≠ 0) || y % 400 = 0

def daysInMonth (y m : Nat) : Nat :=
  if m = 2 then (if isLeapYear y then 29 else 28)
  else if m = 4 || m = 6 || m = 9 || m = 11 then 30
  else 31

/-- The written form of a date, whether or not there is such a day. -/
def date : Reader (Nat × Nat × Nat)
  | a :: b :: c :: d :: '-' :: cs => do
      if !([a, b, c, d].all Char.isDigit) then none
      let (m, cs) ← twoDigits 1 12 cs
      match cs with
      | '-' :: cs => do
          let (day, cs) ← twoDigits 1 31 cs
          some ((numberOf 10 [a, b, c, d], m, day), cs)
      | _ => none
  | _ => none

def isDay : Nat × Nat × Nat → Bool
  | (y, m, d) => 1 ≤ y && d ≤ daysInMonth y m

/-- The microseconds of a fraction of a second; further digits are dropped. -/
def microseconds (cs : List Char) : Nat × List Char :=
  match cs with
  | '.' :: after =>
      let ds := after.takeWhile Char.isDigit
      if ds.isEmpty then (0, cs)
      else
        let kept := ds.take 6
        (numberOf 10 (kept ++ List.replicate (6 - kept.length) '0'), after.drop ds.length)
  | cs => (0, cs)

def time (cs : List Char) : Option ((Nat × Nat × Nat × Nat) × List Char) := do
  let (h, cs) ← twoDigits 0 23 cs
  let ':' :: cs := cs | none
  let (m, cs) ← twoDigits 0 59 cs
  let ':' :: cs := cs | none
  let (s, cs) ← twoDigits 0 59 cs
  let (us, cs) := microseconds cs
  some ((h, m, s, us), cs)

/-- The offset of a time in minutes, if there is one. -/
def offset (cs : List Char) : Option Int × List Char :=
  match cs with
  | 'Z' :: rest | 'z' :: rest => (some 0, rest)
  | sign :: after =>
      if sign = '+' || sign = '-' then
        match twoDigits 0 23 after with
        | some (h, ':' :: after) => match twoDigits 0 59 after with
            | some (m, rest) =>
                let n : Int := h * 60 + m
                (some (if sign = '-' then -n else n), rest)
            | none => (none, cs)
        | _ => (none, cs)
      else (none, cs)
  | [] => (none, cs)

/-- A date, a date with a time, or a time. A text that has the form of a date must be one. -/
def moment (cs : List Char) : Option (Option (Value × List Char)) :=
  match date cs with
  | some (d, rest) =>
      if !isDay d then some none
      else
        let plain := some (some (Value.moment ⟨some d, none, none⟩, rest))
        match rest with
        | sep :: after =>
            if sep = 'T' || sep = 't' || sep = ' ' then
              match time after with
              | some (t, rest) =>
                  let (zone, rest) := offset rest
                  some (some (.moment ⟨some d, some t, zone⟩, rest))
              | none => plain
            else plain
        | [] => plain
  | none => match time cs with
      | some (t, rest) => some (some (.moment ⟨none, some t, none⟩, rest))
      | none => none

/-- A number of any kind. -/
def number (cs : List Char) : Except Problem (Value × List Char) :=
  match basedInteger cs, numeral cs with
  | some read, _ => .ok read
  | none, some (n, rest) => n.value.map (·, rest)
  | none, none => orMalformed (specialFloat cs)

/-- A scalar that is no string. -/
def bareScalar (cs : List Char) : Except Problem (Value × List Char) :=
  match cs with
  | 't' :: 'r' :: 'u' :: 'e' :: rest => .ok (.bool true, rest)
  | 'f' :: 'a' :: 'l' :: 's' :: 'e' :: rest => .ok (.bool false, rest)
  | cs => match moment cs with
      | some read => orMalformed read
      | none => number cs

end FilterQuery.Toml

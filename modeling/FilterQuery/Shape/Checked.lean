import FilterQuery.Fault

/-!
# Checking data against models

Data is read into a model field by field, and all problems are reported together, in the order of
the model's fields. Readers combine as an applicative functor. Strings are never made from other
values; truth values are also read from the numbers zero and one and from a few words.
-/

namespace FilterQuery.Shape

/-- The outcome of reading data: a result, or all its problems. -/
inductive Checked (α : Type) where
  | valid (a : α)
  | invalid (problems : List Problem)
deriving DecidableEq

namespace Checked

variable {α β : Type}

def problem (fault : ShapeFault) : Checked α := .invalid [⟨[], fault⟩]

/-- Applies a checked function, keeping the problems of both sides. -/
def ap : Checked (α → β) → Checked α → Checked β
  | .valid f, .valid a => .valid (f a)
  | .valid _, .invalid qs => .invalid qs
  | .invalid ps, .valid _ => .invalid ps
  | .invalid ps, .invalid qs => .invalid (ps ++ qs)

instance : Applicative Checked where
  pure := .valid
  seq f a := ap f (a ())

/-- The same with the problems found at a step into the data. -/
def inside (step : PathStep) : Checked α → Checked α
  | .valid a => .valid a
  | .invalid ps => .invalid (ps.map fun p => { p with path := step :: p.path })

/-- The result, or the fault that data for a model of this title is wrong. -/
def toExcept (title : String) : Checked α → Except Fault α
  | .valid a => .ok a
  | .invalid ps => .error (.model title ps)

/-- The results of several readings. -/
def all : List (Checked α) → Checked (List α)
  | [] => .valid []
  | c :: cs => List.cons <$> c <*> all cs

end Checked

/-! ## Single values -/

variable {α : Type}

abbrev Reader (α : Type) := Value → Checked α

def any : Reader Value := .valid

def string : Reader String
  | .str s => .valid s
  | _ => .problem .notString

def nonEmptyString : Reader String
  | .str s => if s.isEmpty then .problem .emptyString else .valid s
  | _ => .problem .notString

def stringOrNull : Reader (Option String)
  | .null => .valid none
  | .str s => .valid (some s)
  | _ => .problem .notString

/-- A member of an enumeration, by its name. -/
def named (ofName? : String → Option α) : Reader α
  | .str s => match ofName? s with
      | some a => .valid a
      | none => .problem .unknownName
  | _ => .problem .unknownName

def falseWords : List String := ["0", "off", "f", "false", "n", "no"]

def trueWords : List String := ["1", "on", "t", "true", "y", "yes"]

/-- The bound of the integers that are read as numbers: those of 64 bits with a sign. -/
def intBound : Int := 9223372036854775808

/-- The truth value that zero or one is. -/
def boolOfInt (n : Int) : Checked Bool :=
  if n = 0 then .valid false else if n = 1 then .valid true else .problem .unreadableBool

/-- A truth value, or a number or a word that stands for one. Numbers beyond 64 bits and fractions
are not even looked at. -/
def bool : Reader Bool
  | .bool b => .valid b
  | .int n => if -intBound ≤ n ∧ n < intBound then boolOfInt n else .problem .notBool
  | .float x => match x.toInt? with
      | some n => if -intBound < n ∧ n < intBound then boolOfInt n else .problem .notBool
      | none => .problem .notBool
  | .str s =>
      let word := String.ofList (s.toList.map Char.toLower)
      if falseWords.contains word then .valid false
      else if trueWords.contains word then .valid true
      else .problem .unreadableBool
  | _ => .problem .notBool

def boolOrNull : Reader (Option Bool)
  | .null => .valid none
  | v => some <$> bool v

/-! ## Lists, tables and models -/

def list (read : Reader α) : Reader (List α)
  | .list items => .all (items.mapIdx fun i v => (read v).inside (.index i))
  | _ => .problem .notList

def table (read : Reader α) : Reader (List (String × α))
  | .table entries =>
      .all (entries.map fun (k, v) => ((k, ·) <$> read v).inside (.key k))
  | _ => .problem .notTable

/-- The data of a nested model. -/
def model (read : Entries → Checked α) : Reader α
  | .table entries => read entries
  | _ => .problem .notModel

/-- A string or a model; what is neither has problems as both. -/
def stringOr (title : String) (ofString : String → α) (read : Entries → Checked α) : Reader α
  | .str s => .valid (ofString s)
  | v => match model read v with
      | .valid a => .valid a
      | .invalid ps =>
          .invalid (⟨[.key "str"], .notString⟩ ::
            ps.map fun p => { p with path := .key title :: p.path })

/-! ## The fields of a model -/

def required (entries : Entries) (name : String) (read : Reader α) : Checked α :=
  match entries.lookup name with
  | some v => (read v).inside (.key name)
  | none => (Checked.problem .missing).inside (.key name)

def optional (entries : Entries) (name : String) (default : α) (read : Reader α) : Checked α :=
  match entries.lookup name with
  | some v => (read v).inside (.key name)
  | none => .valid default

end FilterQuery.Shape

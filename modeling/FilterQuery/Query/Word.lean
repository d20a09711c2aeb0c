import FilterQuery.Field
import FilterQuery.Quoting

/-!
# Words

A word is a filter when it reads `key:operator:value` or `key:value` for a known key. It is split at
every delimiter and the value is put together again, so a value may hold delimiters. The second part
is the operator only when something follows it and it is one of the operators of the key; otherwise
the key's first operator is taken.
-/

namespace FilterQuery.Query

/-! ## Splitting -/

/-- Splits at each occurrence of the delimiter, from left to right: the part up to the first one and
the parts after it. The first `skip` characters belong to an occurrence already found. -/
def splitFrom (delimiter : List Char) : (skip : Nat) → List Char → List Char × List (List Char)
  | _, [] => ([], [])
  | skip + 1, _ :: cs => splitFrom delimiter skip cs
  | 0, c :: cs =>
      if delimiter.isPrefixOf (c :: cs) then
        let rest := splitFrom delimiter (delimiter.length - 1) cs
        ([], rest.1 :: rest.2)
      else
        let rest := splitFrom delimiter 0 cs
        (c :: rest.1, rest.2)

/-- The parts between the occurrences of a delimiter that is not empty. -/
def split (delimiter text : List Char) : List (List Char) :=
  let parts := splitFrom delimiter 0 text
  parts.1 :: parts.2

/-! ## Operators -/

/-- The operators of a key: which names count as one, and the one taken when none is written. That
one is a name, unless nobody has checked where it comes from. -/
structure OperatorSet where
  accepts : String → Bool
  first : Except Fault Value

namespace OperatorSet

def names (operators : List String) : OperatorSet :=
  ⟨operators.contains, .ok (.str (operators.headD ""))⟩

/-- An empty list of operators means the default. -/
def namesOrDefault (operators : List String) : OperatorSet :=
  names (if operators.isEmpty then defaultUnknownOperators else operators)

def occursIn (part : List Char) : List Char → Bool
  | [] => part.isEmpty
  | c :: cs => part.isPrefixOf (c :: cs) || occursIn part cs

/-- Operators out of a configuration that nobody has checked. Nothing means the default. A string
counts as its own parts and its first letter is taken; a table accepts its keys, but none of them is
first; other values hold no operators at all. -/
def ofValue (v : Value) : OperatorSet :=
  if v.isFalsy then names defaultUnknownOperators
  else match v with
    | .str s => ⟨fun o => occursIn o.toList s.toList, .ok (.str (String.ofList (s.toList.take 1)))⟩
    | .list items => ⟨fun o => items.contains (.str o), .ok (items.headD .null)⟩
    | .table entries => ⟨fun o => (entries.map (·.1)).contains o, .error .noKey⟩
    | _ => ⟨fun _ => false, .error .wrongType⟩

/-- A configured list of names means the same as these names given directly. -/
theorem ofValue_names (operators : List String) :
    ofValue (.list (operators.map .str)) = namesOrDefault operators := by
  have hmem (o : String) : (operators.map Value.str).contains (.str o) = operators.contains o := by
    rw [Bool.eq_iff_iff]
    simp
  cases operators with
  | nil => rfl
  | cons o os =>
    have hfalsy : (Value.list ((o :: os).map .str)).isFalsy = false := rfl
    simp only [ofValue, hfalsy, namesOrDefault, names, hmem]
    rfl

end OperatorSet

/-! ## Filters -/

structure LexOptions where
  allowUnknown : Bool := false
  unknownOperators : OperatorSet := .names defaultUnknownOperators
  delimiter : String := ":"

/-- The field of a key, if there is one, and the operators of the key. Keys without a field have
operators only where unknown fields are allowed. -/
def LexOptions.lookUp (opts : LexOptions) (fields : List Field) (key : String) :
    Option (Option Field × OperatorSet) :=
  match findField fields key with
  | some field => some (some field, .names field.operators)
  | none => if opts.allowUnknown then some (none, opts.unknownOperators) else none

/-- A word as a filter. Operator and value are text, unless the host gave operators or resolves
values otherwise. -/
structure ParsedFilter where
  key : String
  operator : Value
  value : Value
  /-- The unquoted value before it was resolved to an enum value. -/
  rawValue : String
deriving DecidableEq

/-- What keeps a part from being taken into a token. -/
def textProblems (name : String) : Value → List Problem
  | .str _ => []
  | _ => [⟨[.key name], .notString⟩]

/-- The operator and the value as a token takes them. -/
def ParsedFilter.texts (f : ParsedFilter) : Except Fault (String × String) :=
  match f.operator, f.value with
  | .str operator, .str value => .ok (operator, value)
  | operator, value =>
      .error (.model "Token" (textProblems "operator" operator ++ textProblems "value" value))

/-- A raw value becomes an internal one by the options of its field. -/
def resolveFor (field : Option Field) (rawValue : String) : Except Fault Value :=
  match field.bind fun f => f.options?.map (f, ·) with
  | some (f, options) => resolveEnum options (.str rawValue) f.resolver
  | none => .ok (.str rawValue)

/-- Operator and raw text of the value, from the parts of a word behind its key. -/
def chooseOperator (operators : OperatorSet) (delimiter part : List Char)
    (rest : List (List Char)) : Except Fault (Value × List Char) :=
  if !rest.isEmpty && operators.accepts (String.ofList part) then
    .ok (.str (String.ofList part), delimiter.intercalate rest)
  else do return (← operators.first, delimiter.intercalate (part :: rest))

/-- Reads a word as a filter, if it is one. -/
def parseWord (fields : List Field) (opts : LexOptions) (word : List Char) :
    Except Fault (Option ParsedFilter) :=
  let delimiter := opts.delimiter.toList
  if word.isEmpty || delimiter.isEmpty then .ok none
  else if word.head? == some '"' && word.getLast? == some '"' then .ok none
  else match split delimiter word with
    | (c :: cs) :: part :: rest =>
        let key := String.ofList (c :: cs)
        match opts.lookUp fields key with
        | none => .ok none
        | some (field, operators) => do
            let (operator, raw) ← chooseOperator operators delimiter part rest
            let rawValue := String.ofList (Quoting.unquote raw).value
            return some { key, operator, value := ← resolveFor field rawValue, rawValue }
    | _ => .ok none

end FilterQuery.Query

import FilterQuery.Value.Literal

/-!
# Faults

What can go wrong outside query text: in a configuration document, in the arguments of a rule, in
data given for a model, and inside a function that the host supplies. A fault records its cause; the
wording is in one function for each kind. A message that quotes a value is not worded if the value
cannot be written, and then that is the fault.
-/

namespace FilterQuery

/-! ## Data that does not fit a model -/

/-- A step from a model into its data. -/
inductive PathStep where
  | key (name : String)
  | index (i : Nat)
deriving DecidableEq

inductive ShapeFault where
  | missing
  | notString
  | emptyString
  | notList
  | notTable
  | emptyList
  | emptyOperator
  | unknownName
  | unreadableBool
  | notBool
  | notCallable
  | notModel
deriving DecidableEq

/-- A fault at a place in the data of a model. -/
structure Problem where
  path : List PathStep
  fault : ShapeFault
deriving DecidableEq

/-! ## Rules that cannot be built -/

inductive RuleCause where
  | unknownConstraint (given : Value)
  | strategyNotCallable (given : Value)
  | invalidPattern (pattern reason : String)
deriving DecidableEq

structure RuleError where
  ruleId : String
  cause : RuleCause
deriving DecidableEq

def RuleCause.message : RuleCause → String
  | .unknownConstraint given =>
      "unknown constraint " ++ given.literal ++ ", expected one of ('key', 'key-operator', 'exact')"
  | .strategyNotCallable given => "strategy must be callable, got " ++ given.literal
  | .invalidPattern pattern reason =>
      "invalid pattern " ++ literalString pattern ++ ": " ++ reason

/-- The value that the message quotes, if it quotes one that need not be text. -/
def RuleCause.given? : RuleCause → Option Value
  | .unknownConstraint given | .strategyNotCallable given => some given
  | .invalidPattern .. => none

/-- A message about a rule, if its id is known. -/
def inRule (ruleId : Option String) (message : String) : String :=
  match ruleId with
  | none | some "" => message
  | some id => "rule " ++ literalString id ++ ": " ++ message

def RuleError.message (e : RuleError) : String := inRule (some e.ruleId) e.cause.message

/-! ## Configuration -/

/-- A file name without empty and `.` components. Exactly two slashes in front are kept as two. -/
def plainPath (path : String) : String :=
  let parts := (path.splitOn "/").filter fun part => part != "" && part != "."
  let root := match (path.toList.takeWhile (· = '/')).length with
    | 0 => ""
    | 2 => "//"
    | _ => "/"
  let text := root ++ "/".intercalate parts
  if text.isEmpty then "." else text

/-- A file, if the configuration came from one, and a table in it such as `rules[2]`. -/
structure Location where
  file : Option String
  table : Option String
deriving DecidableEq

namespace Location

def text (loc : Location) : String :=
  let file := match loc.file with
    | some file => plainPath file
    | none => "<config>"
  match loc.table with
  | none | some "" => file
  | some table => file ++ " [" ++ table ++ "]"

/-- A message with the location in front, if there is one. -/
def locate (loc : Location) (message : String) : String :=
  match loc.file, loc.table with
  | none, none | none, some "" => message
  | _, _ => loc.text ++ ": " ++ message

end Location

/-- The type that an option of a rule must have. -/
inductive OptionType where
  | int
  | str
deriving DecidableEq

def OptionType.name : OptionType → String
  | .int => "int"
  | .str => "str"

inductive ConfigCause where
  | invalidToml
  | missingKind
  | unknownKind (given : Value) (expected : List String)
  | unknownStrategy (kind : String) (given : Value) (expected : List String)
  | missingOption (kind key : String)
  | wrongOption (kind key : String) (expected : OptionType) (given : Value)
  | rule (cause : RuleError)
  | badDelimiter (given : Value)
  | badDelimiterOption (given : Value)
  | unknownFreeTextMode (given : Value) (expected : List String)
  | unknownResolver (given : Value) (expected : List String)
  | invalidField (problems : List Problem)
deriving DecidableEq

structure ConfigError where
  cause : ConfigCause
  location : Location
deriving DecidableEq

def ConfigCause.message : ConfigCause → String
  | .invalidToml => "Invalid TOML"
  | .missingKind => "Rule is missing 'kind'"
  | .unknownKind given expected =>
      "Unknown rule kind " ++ given.literal ++ ", expected one of " ++ literalNames expected
  | .unknownStrategy kind given expected =>
      "Unknown strategy " ++ given.literal ++ " for " ++ kind ++ " rule, expected one of " ++
        literalNames expected
  | .missingOption kind key => kind ++ " rule requires '" ++ key ++ "'"
  | .wrongOption kind key expected given =>
      kind ++ " rule option '" ++ key ++ "' must be " ++ expected.name ++ ", got " ++ given.literal
  | .rule cause => cause.message
  | .badDelimiter given => "delimiter must be a single character, got " ++ given.literal
  | .badDelimiterOption given =>
      "Delimiter must be a single character, got " ++ given.literal
  | .unknownFreeTextMode given expected =>
      "Unknown free_text_mode " ++ given.literal ++ ", expected one of " ++ literalNames expected
  | .unknownResolver given expected =>
      "Unknown value_resolver " ++ given.literal ++ ", expected one of " ++ literalNames expected
  | .invalidField _ => "Invalid field definition"

def ConfigError.message (e : ConfigError) : String := e.location.locate e.cause.message

/-- The value that the message quotes, if it quotes one. -/
def ConfigCause.given? : ConfigCause → Option Value
  | .unknownKind given _ | .unknownStrategy _ given _ | .wrongOption _ _ _ given
  | .badDelimiter given | .badDelimiterOption given | .unknownFreeTextMode given _
  | .unknownResolver given _ => some given
  | .invalidToml | .missingKind | .missingOption .. | .rule _ | .invalidField _ => none

/-! ## All faults -/

inductive Fault where
  /-- A function of the host failed with this text. -/
  | host (message : String)
  /-- A value names no member of an enumeration. -/
  | unknownMember (enumeration : String) (given : Value)
  | unknownStep (name : String)
  | config (error : ConfigError)
  | rule (error : RuleError)
  /-- A pattern that belongs to no rule is invalid for this reason. -/
  | pattern (reason : String)
  /-- A value was to be written and cannot be. -/
  | unwritten (why : Unwritable)
  /-- Data does not fit the model of this title. -/
  | model (title : String) (problems : List Problem)
  /-- A value was used as something that values of its type cannot be. -/
  | wrongType
  /-- A value was asked for a part that values of its type do not have. -/
  | noAttribute
  /-- A table was asked for a key that it does not have. -/
  | noKey
  /-- An entry of a table is no pair but has so many parts. -/
  | notPair (index length : Nat)
  /-- A number is too large to be counted with. -/
  | overflow
  /-- An integer is written with so many digits, more than are read. -/
  | longInteger (digits : Nat)
  /-- Data or a pattern is nested too deep to be read. -/
  | nesting
  /-- Data is nested too deep to be turned into plain data. -/
  | tooDeep
  /-- A directory was to be read as a file. -/
  | directory
deriving DecidableEq

/-- The text of a fault that has one. -/
def Fault.message : Fault → String
  | .host message => message
  | .unknownMember enumeration given => given.literal ++ " is not a valid " ++ enumeration
  | .unknownStep name => "unknown step " ++ name
  | .config error => error.message
  | .rule error => error.message
  | .notPair index length =>
      "dictionary update sequence element #" ++ toString index ++ " has length " ++
        toString length ++ "; 2 is required"
  | .longInteger digits =>
      "Exceeds the limit (" ++ toString Decimal.maxDigits ++
        " digits) for integer string conversion: value has " ++ toString digits ++
        " digits; use sys.set_int_max_str_digits() to increase the limit"
  | .unwritten .longInteger =>
      "Exceeds the limit (" ++ toString Decimal.maxDigits ++
        " digits) for integer string conversion; use sys.set_int_max_str_digits() to increase " ++
        "the limit"
  | .tooDeep => "Maximum serialization depth exceeded"
  | .unwritten .tooDeep | .pattern .. | .model .. | .wrongType | .noAttribute | .noKey | .overflow
  | .nesting | .directory => ""

/-! ## What cannot be written -/

/-- Fails if a value cannot be written where so many lists and tables may stand inside one
another. -/
def Value.checkWritable (depth : Nat) (v : Value) : Except Fault Unit :=
  match v.unwritable? depth with
  | none => .ok ()
  | some why => .error (.unwritten why)

/-- The fault that quotes a value, unless this cannot be written. -/
def Fault.quoting (depth : Nat) (given? : Option Value) (fault : Fault) : Fault :=
  match given?.bind (Value.unwritable? depth) with
  | none => fault
  | some why => .unwritten why

/-- What becomes of an error of a rule when it is worded. -/
def RuleError.fault (depth : Nat) (e : RuleError) : Fault :=
  Fault.quoting depth e.cause.given? (.rule e)

/-- What becomes of something that is wrong with a configuration when it is worded. -/
def ConfigCause.fault (depth : Nat) (location : Location) (cause : ConfigCause) : Fault :=
  Fault.quoting depth cause.given? (.config ⟨cause, location⟩)

end FilterQuery

import FilterQuery.Rule.MaxCount
import FilterQuery.Rule.Unique
import FilterQuery.Rule.Value

/-!
# Declared rules

A manifest declares preset rules by kind and options. The options are read in a fixed order, kind
and strategy first, and the first fault is reported with the table it is in. Truth values are never
taken for integers.
-/

namespace FilterQuery.Manifest

variable {τ : Type} [TokenLike τ]

/-- A rule as it is declared. -/
structure RuleDeclaration where
  kind : Value
  options : Entries
  /-- Where it is declared, such as `rules[1]`; the empty text stands for no place. -/
  table : String
deriving DecidableEq

inductive RuleKind where
  | unique
  | maxCount
  | pattern
  | enum
deriving DecidableEq

namespace RuleKind

def name : RuleKind → String
  | .unique => "unique"
  | .maxCount => "max_count"
  | .pattern => "pattern"
  | .enum => "enum"

/-- The names of all kinds, sorted. -/
def names : List String := ["enum", "max_count", "pattern", "unique"]

def ofName? : String → Option RuleKind
  | "unique" => some .unique
  | "max_count" => some .maxCount
  | "pattern" => some .pattern
  | "enum" => some .enum
  | _ => none

/-- The names of the strategies of a kind, sorted. -/
def strategyNames : RuleKind → List String
  | .unique => ["mark", "reject", "replace"]
  | .maxCount | .pattern | .enum => ["mark", "reject"]

end RuleKind

/-- The built-in strategies. -/
inductive StrategyName where
  | mark
  | reject
  | replace
deriving DecidableEq

namespace StrategyName

def ofName? : String → Option StrategyName
  | "mark" => some .mark
  | "reject" => some .reject
  | "replace" => some .replace
  | _ => none

def unique (name : StrategyName) : Unique.Strategy τ :=
  match name with
  | .mark => Unique.mark
  | .reject => Unique.reject
  | .replace => Unique.replace

/-- Counting has no strategy that replaces; it is never asked for one. -/
def maxCount (name : StrategyName) : MaxCount.Strategy τ :=
  match name with
  | .mark | .replace => MaxCount.mark
  | .reject => MaxCount.reject

/-- Value checks have no strategy that replaces; they are never asked for one. -/
def value (name : StrategyName) : ValueCheck.Strategy τ :=
  match name with
  | .mark | .replace => ValueCheck.mark
  | .reject => ValueCheck.reject

end StrategyName

/-! ## Options -/

/-- The integer that an option is. -/
def intOption (kind : RuleKind) (key : String) : Value → Except ConfigCause Int
  | .int n => .ok n
  | v => .error (.wrongOption kind.name key .int v)

/-- The string that an option is. -/
def stringOption (kind : RuleKind) (key : String) : Value → Except ConfigCause String
  | .str s => .ok s
  | v => .error (.wrongOption kind.name key .str v)

/-- An option that may be null; `absent` stands for an option that is not there. -/
def optionOr {α : Type} (options : Entries) (key : String) (absent : Option α)
    (read : Value → Except ConfigCause α) : Except ConfigCause (Option α) :=
  match options.lookup key with
  | none => .ok absent
  | some .null => .ok none
  | some v => some <$> read v

/-- An option that must be there. -/
def requiredOption {α : Type} (kind : RuleKind) (options : Entries) (key : String)
    (read : Value → Except ConfigCause α) : Except ConfigCause α :=
  match options.lookup key with
  | none => .error (.missingOption kind.name key)
  | some v => read v

/-- The strategy by name; a name that is null is as unknown as any other. -/
def strategyOf (kind : RuleKind) (options : Entries) : Except ConfigCause StrategyName := do
  let name ← optionOr options "strategy" (some "mark") (stringOption kind "strategy")
  let unknown (given : Value) : Except ConfigCause StrategyName :=
    .error (.unknownStrategy kind.name given kind.strategyNames)
  match name with
  | none => unknown .null
  | some name =>
      match StrategyName.ofName? name with
      | some strategy =>
          if kind.strategyNames.contains name then .ok strategy else unknown (.str name)
      | none => unknown (.str name)

/-! ## Rules -/

/-- A number or null, as a rule holds it. -/
def intOrNull : Option Int → Value
  | none => .null
  | some n => .int n

/-- Text or null. -/
def textOrNull : Option String → Value
  | none => .null
  | some s => .str s

/-- A rule that its options do not make is refused; other faults stay as they are. -/
def refused (refuse : ConfigCause → Fault) : Fault → Fault
  | .rule e => refuse (.rule e)
  | fault => fault

/-- The rule of a kind and options; `refuse` places what is wrong with these. -/
def ruleOf (host : Host) (refuse : ConfigCause → Fault) (kind : RuleKind) (options : Entries) :
    Except Fault (Rule τ) := do
  let strategy ← (strategyOf kind options).mapError refuse
  let priority := intOrNull
    (← (optionOr options "priority" none (intOption kind "priority")).mapError refuse)
  let message ← (optionOr options "message" none (stringOption kind "message")).mapError refuse
  match kind with
  | .unique =>
      let constraint ← (optionOr options "constraint" (some "key")
        (stringOption kind "constraint")).mapError refuse
      (Unique.rule host (.ofValue (textOrNull constraint)) (.function strategy.unique)
        priority).mapError (refused refuse)
  | .maxCount =>
      let key ← (optionOr options "field" (some "*") (stringOption kind "field")).mapError refuse
      let most ← (requiredOption kind options "max" (intOption kind "max")).mapError refuse
      (MaxCount.rule host (.ofValue (textOrNull key)) most (.function strategy.maxCount) priority
        message).mapError (refused refuse)
  | .pattern =>
      let key ← (requiredOption kind options "field" (stringOption kind "field")).mapError refuse
      let pattern ←
        (requiredOption kind options "pattern" (stringOption kind "pattern")).mapError refuse
      (RequirePattern.rule host key (.text pattern) (.function strategy.value) priority
        message).mapError (refused refuse)
  | .enum =>
      (RequireEnum.rule host (.function strategy.value) priority message).mapError (refused refuse)

/-- Builds a declared rule. A list or a table cannot even be looked up as a kind. -/
def buildRule (host : Host) (file : Option String) (d : RuleDeclaration) : Except Fault (Rule τ) :=
  let refuse := ConfigCause.fault host.writingDepth ⟨file, some d.table⟩
  match d.kind with
  | .list _ | .table _ => .error .wrongType
  | .str name => match RuleKind.ofName? name with
      | some kind => ruleOf host refuse kind d.options
      | none => .error (refuse (.unknownKind d.kind RuleKind.names))
  | _ => .error (refuse (.unknownKind d.kind RuleKind.names))

/-- Builds declared rules in order, up to the first fault. -/
def buildRules (host : Host) (file : Option String) :
    List RuleDeclaration → Except Fault (List (Rule τ))
  | [] => .ok []
  | d :: ds => do return (← buildRule host file d) :: (← buildRules host file ds)

end FilterQuery.Manifest

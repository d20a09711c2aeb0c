import FilterQuery.Field
import FilterQuery.Plan
import FilterQuery.Shape.Checked

/-!
# Models from data

The tokens, fields, violations and plans that a host gives as plain data. The fields of each model
are read in the order of their declaration, which is also the order of the problems.
-/

namespace FilterQuery

open Shape

/-! ## Tokens -/

def Token.check (entries : Entries) : Checked Token :=
  Token.mk
    <$> required entries "id" string
    <*> required entries "type" (named TokenType.ofName?)
    <*> optional entries "key" "" string
    <*> optional entries "operator" "" string
    <*> optional entries "value" "" string
    <*> optional entries "raw_value" "" string
    <*> optional entries "quoted" false bool
    <*> optional entries "raw_text" none stringOrNull
    <*> optional entries "pos" .null any
    <*> optional entries "invalid" false bool
    <*> optional entries "invalid_reason" none stringOrNull
    <*> optional entries "invalid_message" none stringOrNull

def Token.ofEntries (entries : Entries) : Except Fault Token := (check entries).toExcept "Token"

/-! ## Fields -/

def EnumOption.check (entries : Entries) : Checked EnumOption :=
  EnumOption.mk
    <$> required entries "value" string
    <*> required entries "label" string
    <*> optional entries "icon" none stringOrNull

def EnumOption.ofEntries (entries : Entries) : Except Fault EnumOption :=
  (check entries).toExcept "EnumOption"

def OperatorLabel.check (entries : Entries) : Checked OperatorLabel :=
  OperatorLabel.pair
    <$> required entries "display" string
    <*> required entries "select" string

def OperatorLabel.ofEntries (entries : Entries) : Except Fault OperatorLabel :=
  (check entries).toExcept "OperatorLabel"

def EnumValue.check : Reader EnumValue :=
  stringOr "EnumOption" .bare fun entries => .labelled <$> EnumOption.check entries

/-- A list of enum values, or null for none. -/
def EnumValue.checkList : Reader (Option (List EnumValue))
  | .null => .valid none
  | v => some <$> list EnumValue.check v

/-- The operators of a field: at least one, and each with a name. -/
def Field.checkOperators (v : Value) : Checked { operators : List String // operators ≠ [] } :=
  match list string v with
  | .invalid ps => .invalid ps
  | .valid [] => .problem .emptyList
  | .valid (o :: os) =>
      if (o :: os).any (·.isEmpty) then .problem .emptyOperator else .valid ⟨o :: os, by simp⟩

/-- The functions of a field, which plain data cannot hold. -/
structure FieldFunctions where
  resolver : Option Resolver := none
  validateValue : Option (String → Except Fault Value) := none

/-- The place of a function in plain data: absent or null. -/
def noFunction : Reader Unit
  | .null => .valid ()
  | _ => .problem .notCallable

def Field.check (functions : FieldFunctions) (entries : Entries) : Checked Field :=
  (fun key label type (operators : { operators : List String // operators ≠ [] }) enumValues
      _ _ validation operatorLabels category allowSpaces immutable =>
    { key, label, type, operators := operators.val, operators_ne_nil := operators.property
      enumValues, resolver := functions.resolver, validateValue := functions.validateValue
      validation, operatorLabels, category, allowSpaces, immutable : Field })
    <$> required entries "key" nonEmptyString
    <*> required entries "label" string
    <*> optional entries "type" .string (named FieldType.ofName?)
    <*> required entries "operators" Field.checkOperators
    <*> optional entries "enum_values" none EnumValue.checkList
    <*> optional entries "value_resolver" () noFunction
    <*> optional entries "validate_value" () noFunction
    <*> optional entries "validation" [] (table bool)
    <*> optional entries "operator_labels" [] (table (stringOr "OperatorLabel" .text OperatorLabel.check))
    <*> optional entries "category" none stringOrNull
    <*> optional entries "allow_spaces" false bool
    <*> optional entries "immutable" false bool

def Field.ofEntries (functions : FieldFunctions) (entries : Entries) : Except Fault Field :=
  (check functions entries).toExcept "FieldDefinition"

/-! ## Violations and plans -/

def Target.check (entries : Entries) : Checked Target :=
  Target.mk
    <$> required entries "token_id" string
    <*> optional entries "pos" .null any

def Violation.check (entries : Entries) : Checked Violation :=
  Violation.mk
    <$> required entries "rule_id" string
    <*> required entries "reason" string
    <*> optional entries "message" none stringOrNull
    <*> required entries "action" (named Action.ofName?)
    <*> optional entries "targets" [] (list (model Target.check))

def Violation.ofEntries (entries : Entries) : Except Fault Violation :=
  (check entries).toExcept "Violation"

/-- A violation about some tokens, with texts that nobody has checked; about none there is nothing to
report, nor to check. -/
def violationOf? {τ : Type} [TokenLike τ] (tokens : List τ) (action : Action)
    (ruleId reason message : Value) : Except Fault (Option Violation) :=
  if tokens.isEmpty then .ok none
  else
    (violation? tokens action
      <$> (string ruleId).inside (.key "rule_id")
      <*> (string reason).inside (.key "reason")
      <*> (stringOrNull message).inside (.key "message")).toExcept "Violation"

def TokenAction.check (entries : Entries) : Checked TokenAction :=
  TokenAction.mk
    <$> required entries "type" (named ActionType.ofName?)
    <*> required entries "token_id" string
    <*> optional entries "pos" .null any
    <*> optional entries "reason" none stringOrNull
    <*> optional entries "message" none stringOrNull

def Plan.check (entries : Entries) : Checked Plan :=
  Plan.mk <$> optional entries "actions" [] (list (model TokenAction.check))

def Plan.ofEntries (entries : Entries) : Except Fault Plan :=
  (check entries).toExcept "ValidationPlan"

end FilterQuery

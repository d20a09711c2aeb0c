import FilterQuery.Field.Enum
import FilterQuery.Field.Operator

/-!
# Fields

The host declares the fields that can be searched. A field has at least one operator, and the first
one is its default.
-/

namespace FilterQuery

inductive FieldType where
  | string
  | enum
  | date
  | datetime
deriving DecidableEq

namespace FieldType

def name : FieldType → String
  | .string => "string"
  | .enum => "enum"
  | .date => "date"
  | .datetime => "datetime"

def ofName? : String → Option FieldType
  | "string" => some .string
  | "enum" => some .enum
  | "date" => some .date
  | "datetime" => some .datetime
  | _ => none

end FieldType

structure Field where
  key : String
  label : String
  type : FieldType := .string
  operators : List String
  operators_ne_nil : operators ≠ [] := by simp
  enumValues : Option (List EnumValue) := none
  resolver : Option Resolver := none
  /-- Judges a value of the field; it accepts with true and with nothing else. -/
  validateValue : Option (String → Except Fault Value) := none
  /-- Switches for single rules, by rule id. -/
  validation : List (String × Bool) := []
  operatorLabels : List (String × OperatorLabel) := []
  category : Option String := none
  allowSpaces : Bool := false
  immutable : Bool := false

namespace Field

def defaultOperator (f : Field) : String := f.operators.head f.operators_ne_nil

def isEnum (f : Field) : Bool := f.type = .enum

/-- The options of an enum field that has some. -/
def options? (f : Field) : Option (List EnumValue) :=
  match f.enumValues with
  | some (v :: vs) => if f.isEnum then some (v :: vs) else none
  | _ => none

/-- Whether the field opts out of a rule. -/
def isRuleDisabled (f : Field) (ruleId : String) : Bool := f.validation.lookup ruleId == some false

/-- Whether the field's own predicate accepts a value; there is nothing to say about an empty one. -/
def acceptsValue (f : Field) (value : String) : Except Fault Bool :=
  match f.validateValue with
  | none => .ok true
  | some judge => if value.isEmpty then .ok true else do return (← judge value) == .bool true

end Field

/-- The first field of a key. -/
def findField (fields : List Field) (key : String) : Option Field := fields.find? (·.key == key)

/-- The first field of a key that need not be text. -/
def fieldOfKey (fields : List Field) (key : Value) : Option Field :=
  key.string?.bind (findField fields)

@[simp] theorem fieldOfKey_str (fields : List Field) (key : String) :
    fieldOfKey fields (.str key) = findField fields key := rfl

end FilterQuery

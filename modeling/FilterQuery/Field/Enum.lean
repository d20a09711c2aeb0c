import FilterQuery.Fault
import FilterQuery.Text.LowerCase

/-!
# Enum values

What a user types for an enum field is looked up among the options of the field, by value or by
label; the first option that a resolver accepts gives the internal value. Input that no option
accepts stays as it is.
-/

namespace FilterQuery

structure EnumOption where
  value : String
  label : String
  icon : Option String := none
deriving DecidableEq

/-- An enum value as a field declares it: a bare value, or an option with a label. -/
inductive EnumValue where
  | bare (value : String)
  | labelled (option : EnumOption)
deriving DecidableEq

namespace EnumValue

/-- A bare value is its own label. -/
def option : EnumValue → EnumOption
  | .bare value => { value, label := value }
  | .labelled option => option

def value (v : EnumValue) : String := v.option.value

def label (v : EnumValue) : String := v.option.label

end EnumValue

/-- How input is compared with an option. A custom resolver may answer with any value, where null
means that the option does not fit, or fail. -/
inductive Resolver where
  | exact
  | caseInsensitive
  | custom (resolve : Value → EnumOption → Except Fault Value)

namespace Resolver

def names : List String := ["case_insensitive", "exact"]

def ofName? : String → Option Resolver
  | "exact" => some .exact
  | "case_insensitive" => some .caseInsensitive
  | _ => none

/-- Whether the input is the value or the label of an option. -/
def equal (query : Value) (option : EnumOption) : Bool :=
  query == .str option.value || query == .str option.label

/-- The same in lower case, for input that is text. -/
def equalIgnoringCase (query : String) (option : EnumOption) : Bool :=
  let low := Text.lower query
  low == Text.lower option.value || low == Text.lower option.label

/-- The internal value for the input if the option accepts it, and null otherwise. -/
def resolve : Resolver → Value → EnumOption → Except Fault Value
  | .exact, query, option => .ok (if equal query option then .str option.value else .null)
  | .caseInsensitive, .str query, option =>
      .ok (if equalIgnoringCase query option then .str option.value else .null)
  | .caseInsensitive, _, _ => .error .noAttribute
  | .custom f, query, option => f query option

/-- The answer of the first option that has one, or null. -/
def search (r : Resolver) (query : Value) : List EnumValue → Except Fault Value
  | [] => .ok .null
  | v :: vs => do
      let answer ← r.resolve query v.option
      if answer = .null then r.search query vs else return answer

end Resolver

/-- The internal value for what the user typed; the case-insensitive resolver is the default. Empty
input is not looked up. -/
def resolveEnum (values : List EnumValue) (query : Value) (resolver : Option Resolver) :
    Except Fault Value :=
  if query.isFalsy then .ok query
  else do
    let answer ← (resolver.getD .caseInsensitive).search query values
    return if answer = .null then query else answer

/-- Whether the input resolves to an option or is the value of one. -/
def isEnumMember (values : List EnumValue) (query : Value) (resolver : Option Resolver) :
    Except Fault Bool := do
  return (← resolveEnum values query resolver) != query || values.any (query == .str ·.value)

end FilterQuery

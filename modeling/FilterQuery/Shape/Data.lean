import FilterQuery.Fault
import FilterQuery.Plan
import FilterQuery.Token
import FilterQuery.Violation

/-!
# Models as data

Tokens, violations and plans as plain data, with all their fields by name. The position of a token
may be any data of the host, but can be written only if it is not nested too deep.
-/

namespace FilterQuery

/-- A string, or null for none. -/
def Value.ofOption : Option String → Value
  | none => .null
  | some s => .str s

def Value.strings (names : List String) : Value := .list (names.map .str)

def Token.toValue (t : Token) : Value :=
  .table
    [("id", .str t.id), ("type", .str t.type.name), ("key", .str t.key),
      ("operator", .str t.operator), ("value", .str t.value), ("raw_value", .str t.rawValue),
      ("quoted", .bool t.quoted), ("raw_text", .ofOption t.rawText), ("pos", t.pos),
      ("invalid", .bool t.invalid), ("invalid_reason", .ofOption t.invalidReason),
      ("invalid_message", .ofOption t.invalidMessage)]

def Target.toValue (t : Target) : Value := .table [("token_id", .str t.tokenId), ("pos", t.pos)]

def Violation.toValue (v : Violation) : Value :=
  .table
    [("rule_id", .str v.ruleId), ("reason", .str v.reason), ("message", .ofOption v.message),
      ("action", .str v.action.name), ("targets", .list (v.targets.map Target.toValue))]

def TokenAction.toValue (a : TokenAction) : Value :=
  .table
    [("type", .str a.type.name), ("token_id", .str a.tokenId), ("pos", a.pos),
      ("reason", .ofOption a.reason), ("message", .ofOption a.message)]

def Plan.toValue (p : Plan) : Value := .table [("actions", .list (p.actions.map TokenAction.toValue))]

/-! ## Depth -/

mutual

/-- How many values stand inside one another at most. -/
def Value.depth : Value → Nat
  | .list items => Value.itemsDepth items + 1
  | .table entries => Value.entriesDepth entries + 1
  | _ => 1

def Value.itemsDepth : List Value → Nat
  | [] => 0
  | v :: vs => max v.depth (Value.itemsDepth vs)

def Value.entriesDepth : List (String × Value) → Nat
  | [] => 0
  | (_, v) :: es => max v.depth (Value.entriesDepth es)

end

/-- A position that is nested deeper than this cannot be written. -/
def maxPosDepth : Nat := 255

mutual

/-- Whether all positions in some data can be written. -/
def Value.positionsFit : Value → Bool
  | .list items => Value.itemsFit items
  | .table entries => Value.entriesFit entries
  | _ => true

def Value.itemsFit : List Value → Bool
  | [] => true
  | v :: vs => v.positionsFit && Value.itemsFit vs

def Value.entriesFit : List (String × Value) → Bool
  | [] => true
  | (k, v) :: es =>
      (if k == "pos" then v.depth ≤ maxPosDepth else v.positionsFit) && Value.entriesFit es

end

/-- Data as it can be written. -/
def Value.writable (v : Value) : Except Fault Value :=
  if v.positionsFit then .ok v else .error .tooDeep

end FilterQuery

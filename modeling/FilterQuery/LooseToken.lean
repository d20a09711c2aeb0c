import FilterQuery.Shape.Data
import FilterQuery.TokenLike

/-!
# Loose tokens

A host may replace any part of a token in a session, and nobody checks what it puts there. A loose
token keeps every part as it was given, its id apart. One that no part was replaced of is as good as
the token it was made from.
-/

namespace FilterQuery

/-- A type that was checked, or what a host has put in its place. -/
inductive LooseType where
  | checked (type : TokenType)
  | given (v : Value)
deriving DecidableEq

namespace LooseType

/-- The type it is or names. -/
def known? : LooseType → Option TokenType
  | .checked type => some type
  | .given v => v.string?.bind TokenType.ofName?

def toValue : LooseType → Value
  | .checked type => .str type.name
  | .given v => v

end LooseType

structure LooseToken where
  id : String
  type : LooseType
  key : Value
  operator : Value
  value : Value
  rawValue : Value
  quoted : Value
  rawText : Value
  pos : Value
  invalid : Value
  invalidReason : Value
  invalidMessage : Value
deriving DecidableEq

namespace LooseToken

def ofToken (t : Token) : LooseToken where
  id := t.id
  type := .checked t.type
  key := .str t.key
  operator := .str t.operator
  value := .str t.value
  rawValue := .str t.rawValue
  quoted := .bool t.quoted
  rawText := .ofOption t.rawText
  pos := t.pos
  invalid := .bool t.invalid
  invalidReason := .ofOption t.invalidReason
  invalidMessage := .ofOption t.invalidMessage

def toValue (t : LooseToken) : Value :=
  .table
    [("id", .str t.id), ("type", t.type.toValue), ("key", t.key), ("operator", t.operator),
      ("value", t.value), ("raw_value", t.rawValue), ("quoted", t.quoted),
      ("raw_text", t.rawText), ("pos", t.pos), ("invalid", t.invalid),
      ("invalid_reason", t.invalidReason), ("invalid_message", t.invalidMessage)]

theorem toValue_ofToken (t : Token) : (ofToken t).toValue = t.toValue := rfl

instance : TokenLike LooseToken where
  id := LooseToken.id
  pos := LooseToken.pos
  type? t := t.type.known?
  key := LooseToken.key
  operator := LooseToken.operator
  value := LooseToken.value
  isInvalid t := t.invalid.isTruthy
  withId id t := { t with id }
  withFlag invalid reason message t :=
    { t with invalid := .bool invalid, invalidReason := .ofOption reason
             invalidMessage := .ofOption message }

/-- The token with some of its parts replaced. Names of no part are passed over, and an id must be
text. -/
def replace (parts : Entries) (t : LooseToken) : Except Fault LooseToken := do
  let part (name : String) (now : Value) : Value := (parts.lookup name).getD now
  let id ← match parts.lookup "id" with
    | none => .ok t.id
    | some (.str id) => .ok id
    | some _ => .error .wrongType
  return { id
           type := ((parts.lookup "type").map .given).getD t.type
           key := part "key" t.key
           operator := part "operator" t.operator
           value := part "value" t.value
           rawValue := part "raw_value" t.rawValue
           quoted := part "quoted" t.quoted
           rawText := part "raw_text" t.rawText
           pos := part "pos" t.pos
           invalid := part "invalid" t.invalid
           invalidReason := part "invalid_reason" t.invalidReason
           invalidMessage := part "invalid_message" t.invalidMessage }

/-- Whether a token can be compared with others by its structure: its type must have been checked,
and lists and tables cannot be looked up. -/
def checkStructure (t : LooseToken) : Except Fault Unit :=
  match t.type with
  | .given _ => .error .noAttribute
  | .checked _ => if [t.key, t.operator, t.value].all Value.isKey then .ok () else .error .wrongType

end LooseToken

end FilterQuery

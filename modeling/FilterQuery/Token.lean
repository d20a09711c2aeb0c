import FilterQuery.Value

/-!
# Tokens

A token is one unit of a query: a filter with key, operator and value, a free-text term, or plain
text that nobody looks into. Free text and plain text carry a value only.
-/

namespace FilterQuery

inductive TokenType where
  | filter
  | freeText
  | plaintext
deriving DecidableEq, Inhabited

namespace TokenType

def name : TokenType → String
  | .filter => "filter"
  | .freeText => "freeText"
  | .plaintext => "plaintext"

def ofName? : String → Option TokenType
  | "filter" => some .filter
  | "freeText" => some .freeText
  | "plaintext" => some .plaintext
  | _ => none

theorem ofName?_name (t : TokenType) : ofName? t.name = some t := by cases t <;> rfl

end TokenType

structure Token where
  id : String
  type : TokenType
  key : String := ""
  operator : String := ""
  value : String := ""
  /-- The value before it was resolved to an enum value. -/
  rawValue : String := ""
  /-- Free text that was written inside quotes. -/
  quoted : Bool := false
  /-- The source of quoted free text, quotes and escapes included. -/
  rawText : Option String := none
  /-- A handle of the host, carried along unread. -/
  pos : Value := .null
  invalid : Bool := false
  invalidReason : Option String := none
  invalidMessage : Option String := none
deriving DecidableEq, Inhabited

namespace Token

def isFilter (t : Token) : Bool := t.type = .filter

def isFreeText (t : Token) : Bool := t.type = .freeText

def isPlaintext (t : Token) : Bool := t.type = .plaintext

/-- The user has not typed a value yet. -/
def underConstruction (t : Token) : Bool := t.value.isEmpty

end Token

end FilterQuery

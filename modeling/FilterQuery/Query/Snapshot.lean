import FilterQuery.Query.Render

/-!
# Snapshots

What a host hands to its callbacks: the text of a query and a segment for each token that shows in
it. Plain text is no token of its own and has no id.
-/

namespace FilterQuery.Query

structure Segment where
  type : TokenType
  id : Option String := none
  key : Option String := none
  operator : Option String := none
  value : String
  invalid : Option Bool := none
  invalidReason : Option String := none
deriving DecidableEq

structure Snapshot where
  segments : List Segment
  text : String
deriving DecidableEq

/-- The segment of a token, unless it is a filter without a value, blank free text or empty. -/
def segment? (t : Token) : Option Segment :=
  match t.type with
  | .filter =>
      if t.value.isEmpty then none
      else some
        { type := .filter, id := some t.id, key := some t.key
          operator := some (if t.operator.isEmpty then "is" else t.operator)
          value := t.value
          invalid := if t.invalid then some true else none
          invalidReason := t.invalidReason.filter fun reason => !reason.isEmpty }
  | .freeText =>
      if Text.isBlankString t.value then none
      else some { type := .freeText, id := some t.id, value := t.value }
  | .plaintext => if t.value.isEmpty then none else some { type := .plaintext, value := t.value }

def snapshot (delimiter : String) (tokens : List Token) : Snapshot :=
  ⟨tokens.filterMap segment?, render delimiter tokens⟩

end FilterQuery.Query

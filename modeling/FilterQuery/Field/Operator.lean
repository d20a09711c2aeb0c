/-!
# Operators and their labels

A field may name its operators as it likes; these are the usual ones. An operator has one label, or
one for the display of a token and one for a selection list.
-/

namespace FilterQuery

inductive OperatorLabel where
  | text (label : String)
  | pair (display select : String)
deriving DecidableEq

def defaultOperators : List String :=
  ["is", "is_not", "contains", "not_contains", "starts_with", "ends_with", "gt", "lt", "gte", "lte"]

def defaultOperatorLabels : List (String × OperatorLabel) :=
  [("is", .text "is"), ("is_not", .text "is not"), ("contains", .text "contains"),
    ("not_contains", .text "not contains"), ("starts_with", .text "starts with"),
    ("ends_with", .text "ends with"), ("gt", .text ">"), ("lt", .text "<"), ("gte", .text ">="),
    ("lte", .text "<=")]

/-- The operator of a key that no field declares, unless others are configured. -/
def defaultUnknownOperators : List String := ["is"]

/-- The label of an operator inside a token; an operator without one stands for itself. -/
def displayLabel (labels : List (String × OperatorLabel)) (operator : String) : String :=
  match labels.lookup operator with
  | some (.text label) => if label.isEmpty then operator else label
  | some (.pair display _) => display
  | none => operator

/-- The label of an operator in a selection list. -/
def selectLabel (labels : List (String × OperatorLabel)) (operator : String) : String :=
  match labels.lookup operator with
  | some (.text label) => if label.isEmpty then operator else label
  | some (.pair _ select) => select
  | none => operator

end FilterQuery

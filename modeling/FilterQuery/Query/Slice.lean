import FilterQuery.Quoting

/-!
# Slices of a query

A query is cut into slices at its spaces. A slice that starts with a quote ends just after the quote
that closes it; any other slice is a word, which ends at a space outside quotes. Only U+0020
separates slices. Cutting needs no field catalogue and never fails: a quote that is not closed runs
to the end of the query.
-/

namespace FilterQuery.Query

open Quoting (Mode)

/-- Where a reader of a query stands. -/
inductive Place where
  | between
  | word (m : Mode)
  | quoted (m : Mode)
deriving DecidableEq

/-- What is left of the slice at a place, and the slices after it. -/
def cut : Place → List Char → List Char × List (List Char)
  | _, [] => ([], [])
  | .between, c :: cs =>
      if c = ' ' then cut .between cs
      else
        let rest := cut (if c = '"' then .quoted .inside else .word .outside) cs
        ([], (c :: rest.1) :: rest.2)
  | .word m, c :: cs =>
      if m = .outside ∧ c = ' ' then ([], (cut .between cs).2)
      else
        let rest := cut (.word (m.next c)) cs
        (c :: rest.1, rest.2)
  | .quoted m, c :: cs =>
      if m.next c = .outside then ([c], (cut .between cs).2)
      else
        let rest := cut (.quoted (m.next c)) cs
        (c :: rest.1, rest.2)

/-- The slices of a query. -/
def slices (query : List Char) : List (List Char) := (cut .between query).2

/-- Reads quoted text after its opening quote: what it stands for, and whether it is closed. -/
def readQuoted : Mode → List Char → List Char × Bool
  | _, [] => ([], false)
  | m, c :: cs =>
      if m.next c = .outside then ([], true)
      else
        let rest := readQuoted (m.next c) cs
        (m.spoken c ++ rest.1, rest.2)

end FilterQuery.Query

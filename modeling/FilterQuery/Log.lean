import FilterQuery.Value.Literal

/-!
# Log records

What the library reports about its own work: rules that it had to skip, tokens without an id, and
the size of each plan.
-/

namespace FilterQuery

inductive LogRecord where
  | ruleSkipped (ruleId : String)
  | idMissing
  | planned (deletes others tokens : Nat)
deriving DecidableEq

/-- A record with its level. -/
def LogRecord.text : LogRecord → String
  | .ruleSkipped ruleId =>
      "WARNING Validation rule " ++ literalString ruleId ++ " raised and was skipped"
  | .idMissing =>
      "WARNING Token missing id, generating a new one; stored tokens may predate ids"
  | .planned deletes others tokens =>
      "DEBUG Planned " ++ toString deletes ++ " delete(s) and " ++ toString others ++
        " mark/clear action(s) for " ++ toString tokens ++ " token(s)"

end FilterQuery

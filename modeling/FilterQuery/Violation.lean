import FilterQuery.TokenLike

/-!
# Violations

A rule reports violations: which tokens it is about, and whether they are to be marked as invalid
or deleted.
-/

namespace FilterQuery

inductive Action where
  /-- Keep the token and flag it as invalid. -/
  | mark
  /-- Remove the token. -/
  | delete
deriving DecidableEq

namespace Action

def name : Action → String
  | .mark => "mark"
  | .delete => "delete"

def ofName? : String → Option Action
  | "mark" => some .mark
  | "delete" => some .delete
  | _ => none

end Action

/-- A token that a violation is about. -/
structure Target where
  tokenId : String
  pos : Value := .null
deriving DecidableEq

structure Violation where
  ruleId : String
  reason : String
  message : Option String := none
  action : Action
  targets : List Target := []
deriving DecidableEq

def Violation.tokenIds (v : Violation) : List String := v.targets.map (·.tokenId)

variable {τ : Type} [TokenLike τ]

/-- The target that a token is. -/
def targetOf (t : τ) : Target := ⟨TokenLike.id t, TokenLike.pos t⟩

/-- The reason of violations that no preset reports. -/
def customReason : String := "custom"

/-- A violation about some tokens; about none there is nothing to report. -/
def violation? (tokens : List τ) (action : Action) (ruleId reason : String)
    (message : Option String) : Option Violation :=
  if tokens.isEmpty then none
  else some { ruleId, reason, message, action, targets := tokens.map targetOf }

end FilterQuery

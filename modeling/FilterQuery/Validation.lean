import FilterQuery.Log
import FilterQuery.Plan
import FilterQuery.Rule.Basic

/-!
# Validation

A pass runs all rules on one context, those of higher rank first, and collects their violations. A
rule that fails is skipped and its fault goes no further. A field may switch off single rules for
its tokens; a violation that loses all its targets that way is dropped.
-/

namespace FilterQuery

variable {τ : Type}

namespace Validation

/-- The tokens that rules get to see. -/
def visible [TokenLike τ] (tokens : List τ) : List τ :=
  tokens.filter fun t => !TokenLike.isPlaintext t

/-- Higher rank first; rules of one rank keep their order. -/
def sortRules (rules : List (Rule τ)) : List (Rule τ) := rules.mergeSort fun r s => s.rank ≤ r.rank

/-! ## Switches of fields -/

/-- The field of the token of an id; of several such tokens the last one counts. -/
def fieldOfId [TokenLike τ] (tokens : List τ) (fields : List Field) (id : String) :
    Option Field :=
  (tokens.reverse.find? (TokenLike.id · == id)).bind fun t => fieldOfKey fields (TokenLike.key t)

/-- Whether the field of a target switches off a rule. -/
def isExempt [TokenLike τ] (tokens : List τ) (fields : List Field) (ruleId : String)
    (t : Target) : Bool :=
  (fieldOfId tokens fields t.tokenId).any (·.isRuleDisabled ruleId)

/-- A violation without its exempt targets, unless none is left. -/
def withoutExempt [TokenLike τ] (tokens : List τ) (fields : List Field) (v : Violation) :
    Option Violation :=
  match v.targets.filter fun t => !isExempt tokens fields v.ruleId t with
  | [] => none
  | t :: ts => some { v with targets := t :: ts }

def applyOverrides [TokenLike τ] (tokens : List τ) (fields : List Field)
    (violations : List Violation) : List Violation :=
  violations.filterMap (withoutExempt tokens fields)

/-! ## A pass -/

def context [TokenLike τ] (tokens : List τ) (fields : List Field) (editing : List String) :
    Context τ :=
  ⟨visible tokens, fields, editing⟩

/-- What a rule reports; a rule that fails reports nothing. -/
def report (ctx : Context τ) (r : Rule τ) : List Violation :=
  match r.validate ctx with
  | .ok violations => violations
  | .error _ => []

/-- The violations of all rules, in the order of the rules. -/
def run [TokenLike τ] (tokens : List τ) (fields : List Field) (rules : List (Rule τ))
    (editing : List String) : List Violation :=
  let ctx := context tokens fields editing
  applyOverrides ctx.tokens fields ((sortRules rules).flatMap (report ctx))

/-- The rules that a pass skips, in order. -/
def skipped (ctx : Context τ) (rules : List (Rule τ)) : List (Rule τ) :=
  (sortRules rules).filter fun r => !(r.validate ctx).toBool

/-- What the rules of a pass asked the host, in order. -/
def consulted (ctx : Context τ) (rules : List (Rule τ)) : List Consultation :=
  (sortRules rules).flatMap (·.consulted ctx)

end Validation

/-- The violations of a pass and the plan that follows from them. -/
structure ValidationResult where
  violations : List Violation
  plan : Plan

namespace ValidationResult

def isValid (r : ValidationResult) : Bool := r.violations.isEmpty

end ValidationResult

/-- Runs a pass and plans what is to be done. -/
def validateTokens [TokenLike τ] (tokens : List τ) (fields : List Field) (rules : List (Rule τ))
    (editing : List String) (pruneEmpty : Bool) : ValidationResult :=
  let violations := Validation.run tokens fields rules editing
  ⟨violations, Plan.build tokens violations editing pruneEmpty⟩

/-- What a pass logs: each skipped rule, and the size of the plan. -/
def validationLog [TokenLike τ] (tokens : List τ) (fields : List Field) (rules : List (Rule τ))
    (editing : List String) (pruneEmpty : Bool) : List LogRecord :=
  let skipped := Validation.skipped (Validation.context tokens fields editing) rules
  skipped.map (.ruleSkipped ·.id) ++
    [(validateTokens tokens fields rules editing pruneEmpty).plan.logRecord tokens.length]

end FilterQuery

import FilterQuery.Field
import FilterQuery.Host
import FilterQuery.Violation

/-!
# Rules

A rule looks at the tokens of one pass and reports violations, or fails. It does so in a row of
checks, and fails at the first check that does. A check that asks a function of the host records
what it asked, so that the host can follow a pass.
-/

namespace FilterQuery

variable {τ : Type}

/-- What a rule may look at: the tokens in order, without plain text, the fields, and the ids of
the tokens that the user has just made or changed. -/
structure Context (τ : Type) where
  tokens : List τ
  fields : List Field
  editing : List String

namespace Context

def isEditing [TokenLike τ] (ctx : Context τ) (t : τ) : Bool :=
  ctx.editing.contains (TokenLike.id t)

/-- The tokens being edited, and the untouched ones. -/
def split [TokenLike τ] (ctx : Context τ) (tokens : List τ) : List τ × List τ :=
  tokens.partition ctx.isEditing

end Context

/-- The view of a token that custom functions get. -/
structure SimpleToken where
  key : Value
  operator : Value
  value : Value
deriving DecidableEq

/-- The view of a token. -/
def SimpleToken.ofToken [TokenLike τ] (t : τ) : SimpleToken :=
  ⟨TokenLike.key t, TokenLike.operator t, TokenLike.value t⟩

/-- A question put to a function of the host. -/
inductive Consultation where
  /-- How to resolve a group of duplicates. -/
  | group (signature : String) (key : Value) (ids : List String)
  /-- How to resolve so many tokens too many. -/
  | excess (excess : Nat) (ids : List String)
  /-- What to do about the value of a token. -/
  | value (id : String)
  /-- What to say about a token among `count` ones. -/
  | token (token : SimpleToken) (index count : Nat)
  /-- What to say about a value of a field, among `count` tokens. -/
  | fieldValue (value operator : Value) (count : Nat)
deriving DecidableEq

structure Check where
  outcome : Except Fault (List Violation)
  consulted : Option Consultation := none

structure Rule (τ : Type) where
  id : String
  /-- Integers order the rules; anything else counts as zero. -/
  priority : Value := .null
  checks : Context τ → List Check

namespace Rule

/-- All reports of a row of checks, or the first fault. -/
def collect : List Check → Except Fault (List Violation)
  | [] => .ok []
  | check :: rest => do return (← check.outcome) ++ (← collect rest)

/-- The questions asked in a row of checks, up to the first fault. -/
def asked : List Check → List Consultation
  | [] => []
  | check :: rest =>
      check.consulted.toList ++ (if check.outcome.toBool then asked rest else [])

/-- The violations a rule reports, unless it fails. -/
def validate (r : Rule τ) (ctx : Context τ) : Except Fault (List Violation) := collect (r.checks ctx)

/-- The questions a rule asks on a pass. -/
def consulted (r : Rule τ) (ctx : Context τ) : List Consultation := asked (r.checks ctx)

/-- Rules of higher rank run first. -/
def rank (r : Rule τ) : Int := r.priority.rank

/-- A rule given by its validation function. -/
def ofFunction (id : String) (priority : Value)
    (validate : Context τ → Except Fault (List Violation)) : Rule τ :=
  { id, priority, checks := fun ctx => [{ outcome := validate ctx }] }

@[simp] theorem validate_ofFunction (id : String) (priority : Value)
    (f : Context τ → Except Fault (List Violation)) (ctx : Context τ) :
    (ofFunction id priority f).validate ctx = f ctx := by
  simp only [validate, ofFunction, collect]
  cases f ctx <;> simp [bind, Except.bind, pure, Except.pure]

/-- The rule without a record of what it asks. -/
def unrecorded (r : Rule τ) : Rule τ :=
  { r with checks := fun ctx => (r.checks ctx).map fun check => { check with consulted := none } }

/-- The rule where nothing found can be reported: a check that finds something fails. -/
def unreportable (fault : Fault) (r : Rule τ) : Rule τ :=
  { r with
    checks := fun ctx => (r.checks ctx).map fun check =>
      { check with
        outcome := do
          let found ← check.outcome
          if found.isEmpty then return [] else throw fault } }

end Rule

/-! ## Strategies -/

/-- Tokens that a strategy wants deleted and tokens that it wants marked. -/
structure Resolution (τ : Type) where
  delete : List τ := []
  mark : List τ := []
deriving DecidableEq

/-- The violations of a resolution, the deletions first. -/
def Resolution.violations [TokenLike τ] (r : Resolution τ) (ruleId reason message : String) :
    List Violation :=
  (violation? r.delete .delete ruleId reason (some message)).toList ++
    (violation? r.mark .mark ruleId reason (some message)).toList

/-- What a caller passes as a strategy: a function, or a value that is none. -/
inductive StrategyArgument (σ : Type) where
  | function (f : σ)
  | value (v : Value)

/-- The function of a strategy argument, for the rule of an id. -/
def StrategyArgument.check {σ : Type} (host : Host) (ruleId : String) :
    StrategyArgument σ → Except Fault σ
  | .function f => .ok f
  | .value v => .error (RuleError.fault host.writingDepth ⟨ruleId, .strategyNotCallable v⟩)

end FilterQuery

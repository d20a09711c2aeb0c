import FilterQuery.Rule.Basic

/-!
# Count limits

A field, or the whole query, may have only so many tokens. A strategy says which tokens over the
limit are marked or deleted.
-/

namespace FilterQuery.MaxCount

variable {τ : Type} [TokenLike τ]

/-- What is counted: all tokens, or those of a key. -/
inductive Scope where
  | all
  | ofKey (key : Value)
deriving DecidableEq

namespace Scope

/-- An asterisk stands for all tokens. -/
def ofValue : Value → Scope
  | .str "*" => .all
  | key => .ofKey key

/-- The key by which tokens are counted, or an asterisk. -/
def toValue : Scope → Value
  | .all => .str "*"
  | .ofKey key => key

@[simp] theorem toValue_ofValue (v : Value) : (ofValue v).toValue = v := by
  unfold ofValue
  split <;> rfl

def text (scope : Scope) : String := scope.toValue.text

/-- Whether a token counts. -/
def covers (scope : Scope) (t : τ) : Bool :=
  match scope with
  | .all => true
  | .ofKey key => TokenLike.key t == key

end Scope

/-! ## Strategies -/

/-- Resolves so many counted tokens too many. -/
abbrev Strategy (τ : Type) := List τ → Nat → Context τ → Except Fault (Resolution τ)

/-- Marks the last tokens; the earliest stay valid. -/
def markLast (tokens : List τ) (excess : Nat) : Resolution τ :=
  { mark := tokens.drop (tokens.length - excess) }

/-- Deletes tokens being edited, the first ones first, and then untouched ones from the end. -/
def dropNew (tokens : List τ) (excess : Nat) (ctx : Context τ) : Resolution τ :=
  let (editing, untouched) := ctx.split tokens
  if excess ≤ editing.length then { delete := editing.take excess }
  else
    let remaining := excess - editing.length
    { delete := editing ++ untouched.drop (untouched.length - remaining) }

def mark : Strategy τ := fun tokens excess _ => .ok (markLast tokens excess)

def reject : Strategy τ := fun tokens excess ctx => .ok (dropNew tokens excess ctx)

/-! ## The rule -/

def reason : String := "max-exceeded"

def ruleId : Scope → String
  | .all => "max-count-total"
  | scope => "max-count-" ++ scope.text

/-- The limit; less than nothing counts as nothing. -/
def limit (most : Int) : Nat := most.toNat

def defaultMessage (scope : Scope) (most : Int) : String :=
  match scope with
  | .all => "Maximum " ++ toString (limit most) ++ " filters allowed"
  | scope => "Maximum " ++ toString (limit most) ++ " \"" ++ scope.text ++ "\" filters allowed"

/-- One check, if more tokens are counted than allowed. -/
def checks (scope : Scope) (most : Int) (strategy : Strategy τ) (message : String)
    (ctx : Context τ) : List Check :=
  let counted := ctx.tokens.filter scope.covers
  if counted.length ≤ limit most then []
  else
    let excess := counted.length - limit most
    [{ outcome := do return (← strategy counted excess ctx).violations (ruleId scope) reason message
       consulted := some (.excess excess (counted.map TokenLike.id)) }]

/-- The rule that there be at most so many tokens. The default message is worded in any case, so a
limit that cannot be written makes no rule. -/
def rule (host : Host) (scope : Scope) (most : Int) (strategy : StrategyArgument (Strategy τ))
    (priority : Value) (message : Option String) : Except Fault (Rule τ) := do
  scope.toValue.checkWritable host.writingDepth
  let strategy ← strategy.check host (ruleId scope)
  (Value.int (limit most)).checkWritable host.writingDepth
  return { id := ruleId scope, priority
           checks := checks scope most strategy (message.getD (defaultMessage scope most)) }

end FilterQuery.MaxCount

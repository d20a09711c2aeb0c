import FilterQuery.Rule.Basic

/-!
# Unique tokens

Tokens with one signature under a constraint form a group of duplicates, and a strategy says which
of a group survive. Which token is new comes from the editing set alone; the order of a document
decides only in a group that is all new or all old.
-/

namespace FilterQuery

/-- What makes two tokens duplicates. -/
inductive Constraint where
  | key
  | keyOperator
  | exact
  /-- No known constraint; it compares as `exact` does, but takes all free text as one. -/
  | other (given : Value)
deriving DecidableEq

namespace Constraint

def ofValue : Value → Constraint
  | .str "key" => .key
  | .str "key-operator" => .keyOperator
  | .str "exact" => .exact
  | v => .other v

def text : Constraint → String
  | .key => "key"
  | .keyOperator => "key-operator"
  | .exact => "exact"
  | .other given => given.text

end Constraint

namespace Unique

variable {τ : Type} [TokenLike τ]

/-- What the tokens of a group of duplicates have in common. -/
def signature (c : Constraint) (t : τ) : String :=
  let key := (TokenLike.key t).text
  let operator := (TokenLike.operator t).text
  let value := (TokenLike.value t).text
  if TokenLike.isFreeText t then
    match c with
    | .exact => "freetext:" ++ value
    | _ => "freetext:"
  else
    match c with
    | .key => "filter:" ++ key
    | .keyOperator => "filter:" ++ key ++ ":" ++ operator
    | .exact | .other _ => "filter:" ++ key ++ ":" ++ operator ++ ":" ++ value

/-- Tokens with one signature, in document order, and the key of the first. -/
structure Group (τ : Type) where
  signature : String
  key : Value
  tokens : List τ
deriving DecidableEq

/-- Puts a token at the end of its group, or of a new group at the end. -/
def insert (signature : String) (t : τ) : List (Group τ) → List (Group τ)
  | [] => [⟨signature, TokenLike.key t, [t]⟩]
  | g :: gs =>
      if g.signature = signature then { g with tokens := g.tokens ++ [t] } :: gs
      else g :: insert signature t gs

/-- The groups of some tokens, in the order of their first members. -/
def groups (c : Constraint) (tokens : List τ) : List (Group τ) :=
  tokens.foldl (fun gs t => insert (signature c t) t gs) []

/-! ## Strategies -/

abbrev Strategy (τ : Type) := Group τ → Context τ → Except Fault (Resolution τ)

/-- The first token stays valid and every later one is marked. -/
def markLater (tokens : List τ) : Resolution τ := { mark := tokens.drop 1 }

/-- Keeps existing tokens and discards new ones. Where all are new the first stays, and where none
is new nothing is deleted. -/
def keepOld (tokens : List τ) (ctx : Context τ) : Resolution τ :=
  match ctx.split tokens with
  | (editing, []) => { delete := editing.drop 1 }
  | ([], _) => markLater tokens
  | (editing, _) => { delete := editing }

/-- Keeps the newest token and discards the rest. -/
def keepNew (tokens : List τ) (ctx : Context τ) : Resolution τ :=
  match ctx.split tokens with
  | ([], _) => { delete := tokens.dropLast }
  | (editing, untouched) => { delete := untouched ++ editing.dropLast }

def mark : Strategy τ := fun g _ => .ok (markLater g.tokens)

def reject : Strategy τ := fun g ctx => .ok (keepOld g.tokens ctx)

def replace : Strategy τ := fun g ctx => .ok (keepNew g.tokens ctx)

/-! ## The rule -/

def reason : String := "duplicate"

def ruleId (c : Constraint) : String := "unique-" ++ c.text

def message (c : Constraint) (key : Value) : String :=
  match c with
  | .key => "Only one \"" ++ key.text ++ "\" filter is allowed"
  | .keyOperator => "Duplicate \"" ++ key.text ++ "\" filter with same operator"
  | .exact | .other _ => "Duplicate filter"

/-- The groups in which there is something to resolve. -/
def conflicts (c : Constraint) (tokens : List τ) : List (Group τ) :=
  (groups c tokens).filter fun g => 1 < g.tokens.length

/-- One check for each conflict. -/
def checks (c : Constraint) (strategy : Strategy τ) (ctx : Context τ) : List Check :=
  (conflicts c ctx.tokens).map fun g =>
    { outcome := do return (← strategy g ctx).violations (ruleId c) reason (message c g.key)
      consulted := some (.group g.signature g.key (g.tokens.map TokenLike.id)) }

/-- The rule that tokens be unique under a constraint. -/
def rule (host : Host) (c : Constraint) (strategy : StrategyArgument (Strategy τ))
    (priority : Value) : Except Fault (Rule τ) := do
  match c with
  | .other given => .error (RuleError.fault host.writingDepth ⟨ruleId c, .unknownConstraint given⟩)
  | _ =>
      let strategy ← strategy.check host (ruleId c)
      return { id := ruleId c, priority, checks := checks c strategy }

end Unique

end FilterQuery

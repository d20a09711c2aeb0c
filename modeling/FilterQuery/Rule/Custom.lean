import FilterQuery.Rule.Basic

/-!
# Custom rules

A function of the host that is asked about each token becomes a rule. It may pass the token, mark it
with a message, or name tokens to delete by their index among the tokens it was shown. What it
answers is not checked beforehand: indices that are none hit no token, and a message that is no
string makes the rule fail where it would be reported.
-/

namespace FilterQuery

/-- What a custom function answers about a token. -/
inductive Answer where
  | pass
  | mark (message : String)
  /-- A message and the indices of the tokens to delete, either of them absent as null. -/
  | verdict (message indices : Value)
  /-- Nothing that a rule can use. -/
  | unsupported

namespace Answer

/-- An answer out of a plain value; a table may have a message and indices. -/
def ofValue : Value → Answer
  | .null => .pass
  | .str message => .mark message
  | .table entries =>
      .verdict ((entries.lookup "message").getD .null)
        ((entries.lookup "delete_target_indices").getD .null)
  | _ => .unsupported

end Answer

namespace CustomRule

variable {τ : Type} [TokenLike τ]

abbrev Function := SimpleToken → List SimpleToken → Nat → Except Fault Answer

/-- A message as a violation takes it. -/
def messageOf : Value → Except Fault (Option String)
  | .null => .ok none
  | .str s => .ok (some s)
  | _ => .error (.model "Violation" [⟨[.key "message"], .notString⟩])

/-- The token at an index; truth values are no indices. -/
def tokenAt? (tokens : List τ) : Value → Option τ
  | .int (.ofNat i) => tokens[i]?
  | _ => none

/-- The tokens that some indices hit. Text and tables hold no indices, and other values cannot be
looked through. -/
def hits (tokens : List τ) : Value → Except Fault (List τ)
  | .list indices => .ok (indices.filterMap (tokenAt? tokens))
  | .str _ | .table _ => .ok []
  | _ => .error .wrongType

/-- A mark of one token. -/
def markOf (ruleId : String) (t : τ) (message : Option String) : Violation :=
  { ruleId, reason := customReason, message, action := .mark, targets := [targetOf t] }

/-- The violations that an answer about a token amounts to. -/
def violations (ruleId : String) (tokens : List τ) (t : τ) :
    Answer → Except Fault (List Violation)
  | .pass => .ok []
  | .mark message => .ok [markOf ruleId t (some message)]
  | .verdict message indices =>
      if indices.isTruthy then do
        let targets ← hits tokens indices
        if targets.isEmpty then return []
        else return (violation? targets .delete ruleId customReason (← messageOf message)).toList
      else if message.isTruthy then do return [markOf ruleId t (← messageOf message)]
      else .ok []
  | .unsupported => .error .wrongType

/-- One check for each token; `question` is what asking about it puts to the host, if anything. -/
def checks (ruleId : String) (f : Function) (question : SimpleToken → Nat → Nat → Option Consultation)
    (ctx : Context τ) : List Check :=
  let views := ctx.tokens.map SimpleToken.ofToken
  ctx.tokens.mapIdx fun i t =>
    let view := SimpleToken.ofToken t
    { outcome := do violations ruleId ctx.tokens t (← f view views i)
      consulted := question view i views.length }

def defaultId : String := "custom-rule"

/-- The rule of a function that is asked about each token. -/
def rule (f : Function) (id : String) (priority : Value) : Rule τ :=
  { id, priority, checks := checks id f fun token i count => some (.token token i count) }

/-! ## Rules of one field -/

/-- A function that is asked about a value, among all tokens, with the operator. -/
abbrev FieldFunction := Value → List SimpleToken → Value → Except Fault Answer

/-- How many tokens of a key stand before an index. -/
def turn (key : String) (all : List SimpleToken) (index : Nat) : Nat :=
  (all.take index).countP (·.key == .str key)

/-- Asks about the tokens of a key only. The function may answer by turn: it is told how many of
these tokens came before. -/
def onKey (key : String) (f : Nat → FieldFunction) : Function := fun token all index =>
  if token.key ≠ .str key then .ok .pass
  else f (turn key all index) token.value all token.operator

def fieldQuestion (key : String) (token : SimpleToken) (_ count : Nat) : Option Consultation :=
  if token.key ≠ .str key then none else some (.fieldValue token.value token.operator count)

def defaultFieldId (key : String) : String := "field-rule-" ++ key

/-- The rule of a function that is asked about the values of a field and answers by turn; an empty
id counts as none. -/
def fieldRuleByTurn (key : String) (f : Nat → FieldFunction) (id : Option String)
    (priority : Value) : Rule τ :=
  let id := match id with
    | none | some "" => defaultFieldId key
    | some id => id
  { id, priority, checks := checks id (onKey key f) (fieldQuestion key) }

/-- The rule of a function that is asked about the values of a field. -/
def fieldRule (key : String) (f : FieldFunction) (id : Option String) (priority : Value) : Rule τ :=
  fieldRuleByTurn key (fun _ => f) id priority

end CustomRule

end FilterQuery

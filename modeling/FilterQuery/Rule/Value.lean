import FilterQuery.Rule.Basic

/-!
# Value checks

The values of a field may have to match a pattern, and those of an enum field may have to be among
its options. A strategy says for each value that is neither whether its token is marked or deleted.
Empty values are not checked.
-/

namespace FilterQuery

variable {τ : Type} [TokenLike τ]

namespace ValueCheck

/-- What to do about a token with an invalid value. -/
abbrev Strategy (τ : Type) := τ → Context τ → Except Fault Action

def mark : Strategy τ := fun _ _ => .ok .mark

/-- Deletes while the user is editing the token; an untouched token is only marked. -/
def reject : Strategy τ := fun t ctx => .ok (if ctx.isEditing t then .delete else .mark)

/-- The check of a token whose value is invalid. -/
def refuse (strategy : Strategy τ) (ctx : Context τ) (t : τ) (ruleId reason message : String) :
    Check where
  outcome := do
    return [{ ruleId, reason, message := some message, action := ← strategy t ctx
              targets := [targetOf t] }]
  consulted := some (.value (TokenLike.id t))

end ValueCheck

open ValueCheck (Strategy refuse)

namespace RequirePattern

/-- A pattern as text, or one that has been read before, by what is searched for in a text. -/
inductive Source where
  | text (pattern : String)
  | compiled (search : String → Bool)

/-- What a pattern is searched by. One that is invalid is an error of the rule; other failures to
read it stay as they are. -/
def Source.read (host : Host) (ruleId : String) : Source → Except Fault (String → Bool)
  | .compiled search => .ok search
  | .text written => (host.compile written).mapError fun failure =>
      match failure with
      | .invalid reason =>
          RuleError.fault host.writingDepth ⟨ruleId, .invalidPattern written reason⟩
      | .other fault => fault

def reason : String := "pattern"

def ruleId (key : String) : String := "pattern-" ++ key

def defaultMessage (key : String) : String := "Invalid format for \"" ++ key ++ "\""

/-- Whether a token of the field has a value to check. -/
def applies (key : String) (t : τ) : Bool :=
  TokenLike.key t == .str key && !TokenLike.underConstruction t

/-- The check of a value: one in which the pattern does not occur is refused, and one that is no
text cannot be searched. -/
def check (key : String) (search : String → Bool) (strategy : Strategy τ) (message : String)
    (ctx : Context τ) (t : τ) : Option Check :=
  match TokenLike.value t with
  | .str value =>
      if search value then none
      else some (refuse strategy ctx t (ruleId key) reason message)
  | _ => some { outcome := .error .wrongType }

/-- The checks of the values of a field. -/
def checks (key : String) (search : String → Bool) (strategy : Strategy τ) (message : String)
    (ctx : Context τ) : List Check :=
  (ctx.tokens.filter (applies key)).filterMap (check key search strategy message ctx)

/-- The rule that a pattern occur in the values of a field. -/
def rule (host : Host) (key : String) (pattern : Source)
    (strategy : StrategyArgument (Strategy τ)) (priority : Value) (message : Option String) :
    Except Fault (Rule τ) := do
  let strategy ← strategy.check host (ruleId key)
  let search ← pattern.read host (ruleId key)
  return { id := ruleId key, priority
           checks := checks key search strategy (message.getD (defaultMessage key)) }

end RequirePattern

namespace RequireEnum

def reason : String := "invalid-enum-value"

def ruleId : String := "enum-value"

def defaultMessage (field : Field) : String := "Invalid value for \"" ++ field.label ++ "\""

/-- The enum field of a token, and its options, if there is something to check. -/
def field? (ctx : Context τ) (t : τ) : Option (Field × List EnumValue) :=
  if TokenLike.underConstruction t then none
  else (fieldOfKey ctx.fields (TokenLike.key t)).bind fun f => f.options?.map (f, ·)

/-- The check of a token of an enum field. -/
def check (strategy : Strategy τ) (message : Option String) (ctx : Context τ) (t : τ)
    (field : Field) (options : List EnumValue) : Option Check :=
  match isEnumMember options (TokenLike.value t) field.resolver with
  | .ok true => none
  | .ok false => some (refuse strategy ctx t ruleId reason (message.getD (defaultMessage field)))
  | .error fault => some { outcome := .error fault }

/-- One check for each value that is no option of its field. -/
def checks (strategy : Strategy τ) (message : Option String) (ctx : Context τ) : List Check :=
  ctx.tokens.filterMap fun t =>
    (field? ctx t).bind fun (field, options) => check strategy message ctx t field options

/-- The rule that the values of enum fields be among the options. -/
def rule (host : Host) (strategy : StrategyArgument (Strategy τ)) (priority : Value)
    (message : Option String) : Except Fault (Rule τ) := do
  let strategy ← strategy.check host ruleId
  return { id := ruleId, priority, checks := checks strategy message }

end RequireEnum

end FilterQuery

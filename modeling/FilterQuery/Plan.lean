import FilterQuery.Log
import FilterQuery.Violation

/-!
# Plans

The violations of a pass are merged into instructions for each token. A token that any violation
wants deleted is deleted, whatever else is said about it; otherwise any mark marks it; a token that
is flagged as invalid and has neither is cleared. The first violation about a token gives the
reason.
-/

namespace FilterQuery

inductive ActionType where
  | delete
  | mark
  /-- The token is valid again. -/
  | clear
deriving DecidableEq

namespace ActionType

def name : ActionType → String
  | .delete => "delete"
  | .mark => "mark"
  | .clear => "clear"

def ofName? : String → Option ActionType
  | "delete" => some .delete
  | "mark" => some .mark
  | "clear" => some .clear
  | _ => none

end ActionType

/-- One instruction for the host. -/
structure TokenAction where
  type : ActionType
  tokenId : String
  pos : Value := .null
  reason : Option String := none
  message : Option String := none
deriving DecidableEq

structure Plan where
  actions : List TokenAction
deriving DecidableEq

namespace Plan

def idsOf (p : Plan) (type : ActionType) : List String :=
  (p.actions.filter (·.type = type)).map (·.tokenId)

def deleted (p : Plan) : List String := p.idsOf .delete

def marked (p : Plan) : List String := p.idsOf .mark

def cleared (p : Plan) : List String := p.idsOf .clear

def isEmpty (p : Plan) : Bool := p.actions.isEmpty

variable {τ : Type} [TokenLike τ]

/-! ## Building -/

def emptyReason : String := "empty"

/-- An abandoned filter: one without a value that is not being edited. -/
def isAbandoned (editing : List String) (t : τ) : Bool :=
  TokenLike.isFilter t && TokenLike.underConstruction t && !editing.contains (TokenLike.id t)

/-- The ids that violations of one action are about, each with its violation, in order. -/
def demands (action : Action) (violations : List Violation) : List (String × Violation) :=
  (violations.filter (·.action = action)).flatMap fun v => v.tokenIds.map (·, v)

/-- The ids to delete, each with a reason; the first entry of an id counts. -/
def deletions (tokens : List τ) (violations : List Violation) (editing : List String)
    (pruneEmpty : Bool) : List (String × String) :=
  let abandoned := if pruneEmpty then tokens.filter (isAbandoned editing) else []
  abandoned.map (fun t => (TokenLike.id t, emptyReason)) ++
    (demands .delete violations).map fun (id, v) => (id, v.reason)

/-- The deletion of a token, if its id is to be deleted. -/
def deletion? (doomed : List (String × String)) (t : τ) : Option TokenAction :=
  (doomed.lookup (TokenLike.id t)).map fun reason =>
    { type := .delete, tokenId := TokenLike.id t, pos := TokenLike.pos t, reason := some reason }

/-- The mark of a token, if its id is to be marked, or else its clearance, if it needs one. -/
def flagging? (marks : List (String × Violation)) (t : τ) : Option TokenAction :=
  let action (type : ActionType) : TokenAction :=
    { type, tokenId := TokenLike.id t, pos := TokenLike.pos t }
  match marks.lookup (TokenLike.id t) with
  | some v => some { action .mark with reason := some v.reason, message := v.message }
  | none => if TokenLike.isInvalid t then some (action .clear) else none

/-- Merges the violations of a pass: first all deletions, then marks and clearances, each in
document order. Abandoned filters are deleted too if `pruneEmpty` says so. -/
def build (tokens : List τ) (violations : List Violation) (editing : List String)
    (pruneEmpty : Bool) : Plan :=
  let doomed := deletions tokens violations editing pruneEmpty
  let marks := demands .mark violations
  let kept := tokens.filter fun t => (deletion? doomed t).isNone
  ⟨tokens.filterMap (deletion? doomed) ++ kept.filterMap (flagging? marks)⟩

/-- How many instructions of which kind a plan for so many tokens has. -/
def logRecord (p : Plan) (tokenCount : Nat) : LogRecord :=
  .planned p.deleted.length (p.actions.length - p.deleted.length) tokenCount

/-! ## Applying -/

/-- The instruction for an id; of several ones the last counts. -/
def actionFor (p : Plan) (id : String) : Option TokenAction :=
  p.actions.reverse.find? (·.tokenId == id)

/-- What an instruction makes of a token. -/
def TokenAction.apply (action : Option TokenAction) (t : τ) : Option τ :=
  match action with
  | none => some t
  | some a => match a.type with
    | .delete => none
    | .mark => some (TokenLike.withFlag true a.reason a.message t)
    | .clear => some (TokenLike.withFlag false none none t)

/-- The tokens after a plan; their order and positions stay. -/
def apply (p : Plan) (tokens : List τ) : List τ :=
  tokens.filterMap fun t => TokenAction.apply (p.actionFor (TokenLike.id t)) t

end Plan

end FilterQuery

import FilterQuery.TokenLike

/-!
# Editing

Which tokens count as being edited: the new and the changed ones since the last committed tokens,
and those that have the focus. Two independent readings of a query have unrelated ids, so the second
one first takes over the ids of tokens that look the same.
-/

namespace FilterQuery

variable {τ : Type} [TokenLike τ]

/-! ## The editing set -/

/-- Whether key, operator or value differ. -/
def contentDiffers (t u : τ) : Bool :=
  TokenLike.key t != TokenLike.key u || TokenLike.operator t != TokenLike.operator u ||
    TokenLike.value t != TokenLike.value u

/-- Whether a token's id is not among those of before. -/
def isNew (previous : List τ) (t : τ) : Bool :=
  !(previous.map TokenLike.id).contains (TokenLike.id t)

/-- Whether a token's id was there before with other content; of several such tokens the last one
counts. -/
def isModified (previous : List τ) (t : τ) : Bool :=
  (previous.reverse.find? (TokenLike.id · == TokenLike.id t)).any (contentDiffers · t)

/-- How a host asks for a pass. -/
structure EditOptions where
  /-- A full check: if nothing has changed, everything counts as edited. -/
  forceCheck : Bool := false
  /-- The change is an undo or a redo, which makes nothing new or changed. -/
  isHistory : Bool := false
  focused : List String := []

/-- Whether a token is new or changed as far as the options let it be. -/
def EditOptions.isTouched (opts : EditOptions) (previous : List τ) (t : τ) : Bool :=
  !opts.isHistory && (isNew previous t || isModified previous t)

/-- The ids that count as being edited, in document order. -/
def editingIds (previous current : List τ) (opts : EditOptions) : List String :=
  let ids := current.map TokenLike.id
  let touched := (current.filter (opts.isTouched previous)).map TokenLike.id
  if opts.forceCheck && touched.isEmpty then ids.eraseDups
  else (ids.filter fun id => touched.contains id || opts.focused.contains id).eraseDups

/-- The ids of new tokens, in document order. -/
def newIds (previous current : List τ) : List String :=
  ((current.filter (isNew previous)).map TokenLike.id).eraseDups

/-- The ids of changed tokens, in document order. -/
def modifiedIds (previous current : List τ) : List String :=
  ((current.filter (isModified previous)).map TokenLike.id).eraseDups

/-! ## Reconciling -/

/-- Whether two tokens agree in type, key, operator and value. -/
def sameStructure (t u : τ) : Bool :=
  TokenLike.type? t == TokenLike.type? u && !contentDiffers t u

/-- Takes the first token of the same structure out of a list. -/
def takeTwin (t : τ) : List τ → Option (τ × List τ)
  | [] => none
  | u :: us =>
      if sameStructure u t then some (u, us)
      else (takeTwin t us).map fun (twin, rest) => (twin, u :: rest)

/-- Gives each current token the id of a previous one of its structure, each of them once and in
document order; tokens without such a twin keep their own id. -/
def reconcile : (previous current : List τ) → List τ
  | _, [] => []
  | previous, t :: ts =>
      match takeTwin t previous with
      | some (twin, rest) => TokenLike.withId (TokenLike.id twin) t :: reconcile rest ts
      | none => t :: reconcile previous ts

end FilterQuery

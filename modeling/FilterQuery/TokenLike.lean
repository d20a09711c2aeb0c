import FilterQuery.Token

/-!
# What counts as a token

Rules, plans and the editing set look at a token through a few properties and change only its id and
its flag, so they are stated for every type that has these. Tokens have them, and so have the tokens
of a host that replaces parts without a check; parts are therefore looked at as values.
-/

namespace FilterQuery

class TokenLike (τ : Type) where
  id : τ → String
  pos : τ → Value
  /-- The type, if it is one of the known types. -/
  type? : τ → Option TokenType
  key : τ → Value
  operator : τ → Value
  value : τ → Value
  isInvalid : τ → Bool
  withId : String → τ → τ
  withFlag : (invalid : Bool) → (reason message : Option String) → τ → τ

namespace TokenLike

variable {τ : Type} [TokenLike τ]

def isFilter (t : τ) : Bool := type? t = some .filter

def isFreeText (t : τ) : Bool := type? t = some .freeText

def isPlaintext (t : τ) : Bool := type? t = some .plaintext

/-- The user has not typed a value yet. -/
def underConstruction (t : τ) : Bool := (value t).isFalsy

/-! ## Tokens -/

instance : TokenLike Token where
  id := Token.id
  pos := Token.pos
  type? t := some t.type
  key t := .str t.key
  operator t := .str t.operator
  value t := .str t.value
  isInvalid := Token.invalid
  withId id t := { t with id }
  withFlag invalid reason message t :=
    { t with invalid, invalidReason := reason, invalidMessage := message }

section

variable (t : Token)

@[simp] theorem id_token : TokenLike.id t = t.id := rfl

@[simp] theorem pos_token : pos t = t.pos := rfl

@[simp] theorem type?_token : type? t = some t.type := rfl

@[simp] theorem key_token : key t = .str t.key := rfl

@[simp] theorem operator_token : operator t = .str t.operator := rfl

@[simp] theorem value_token : value t = .str t.value := rfl

@[simp] theorem isInvalid_token : isInvalid t = t.invalid := rfl

@[simp] theorem withId_token (id : String) : withId id t = { t with id } := rfl

@[simp] theorem withFlag_token (invalid : Bool) (reason message : Option String) :
    withFlag invalid reason message t =
      { t with invalid, invalidReason := reason, invalidMessage := message } := rfl

@[simp] theorem isFilter_token : isFilter t = t.isFilter := by
  simp [isFilter, Token.isFilter]

@[simp] theorem isFreeText_token : isFreeText t = t.isFreeText := by
  simp [isFreeText, Token.isFreeText]

@[simp] theorem isPlaintext_token : isPlaintext t = t.isPlaintext := by
  simp [isPlaintext, Token.isPlaintext]

@[simp] theorem underConstruction_token : underConstruction t = t.underConstruction := rfl

end

end TokenLike

end FilterQuery

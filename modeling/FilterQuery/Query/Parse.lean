import FilterQuery.Host
import FilterQuery.Query.Slice
import FilterQuery.Query.Word
import FilterQuery.Text.Blank
import FilterQuery.Token

/-!
# Reading a query

Each slice of a query becomes one token: quoted free text, a filter with a value, or a word of free
text. Ids come from a supply `ids`, one for each token in order, and positions count the tokens.
Reading fails only where a resolver of the host fails or where unchecked operators turn out to be
none.
-/

namespace FilterQuery.Query

/-- A fault while a query was read, and the number of ids that had been taken by then. -/
structure LexFault where
  fault : Fault
  idsTaken : Nat
deriving DecidableEq

/-- The token of a slice. A word that reads as a filter without a value stays free text. A word that
cannot be read takes no id; a token that cannot be made has taken one. -/
def tokenOf (fields : List Field) (opts : LexOptions) (id : String) (pos : Nat)
    (slice : List Char) : Except LexFault Token :=
  match slice with
  | '"' :: cs =>
      let value := String.ofList (readQuoted .inside cs).1
      .ok { id, type := .freeText, value, rawValue := value, quoted := true
            rawText := some (String.ofList slice), pos := .int pos }
  | word => do
      let freeText : Token :=
        { id, type := .freeText, value := String.ofList word, rawValue := String.ofList word
          pos := .int pos }
      match ← (parseWord fields opts word).mapError (⟨·, pos⟩) with
      | none => return freeText
      | some f =>
          if f.value.isFalsy then return freeText
          else do
            let (operator, value) ← f.texts.mapError (⟨·, pos + 1⟩)
            return { id, type := .filter, key := f.key, operator, value
                     rawValue := f.rawValue, pos := .int pos }

/-- The tokens of the slices from the `n`-th on. -/
def tokensFrom (fields : List Field) (opts : LexOptions) (ids : Nat → String) :
    (n : Nat) → List (List Char) → Except LexFault (List Token)
  | _, [] => .ok []
  | n, slice :: rest => do
      let token ← tokenOf fields opts (ids n) n slice
      return token :: (← tokensFrom fields opts ids (n + 1) rest)

/-- What a slice stands for so far, if it is quoted free text that was not closed. -/
def unclosed? : List Char → Option String
  | '"' :: cs => match readQuoted .inside cs with
      | (value, false) => some (String.ofList value)
      | (_, true) => none
  | _ => none

/-- A query as read: its tokens, and the value so far of free text whose quote is still open. -/
structure Parsed where
  tokens : List Token
  incomplete : Option String
deriving DecidableEq

/-- Reads a query. -/
def parse (fields : List Field) (opts : LexOptions) (ids : Nat → String) (query : String) :
    Except LexFault Parsed := do
  let cuts := slices query.toList
  return { tokens := ← tokensFrom fields opts ids 0 cuts
           incomplete := cuts.getLast?.bind unclosed? }

/-! ## Free text -/

/-- How free text is kept: not at all, as plain text, or as tokens of its own. -/
inductive FreeTextMode where
  | none
  | plain
  | tokenize
deriving DecidableEq

namespace FreeTextMode

def names : List String := ["none", "plain", "tokenize"]

def ofName? : String → Option FreeTextMode
  | "none" => some .none
  | "plain" => some .plain
  | "tokenize" => some .tokenize
  | _ => Option.none

/-- The mode that a value names. -/
def ofValue (host : Host) (v : Value) : Except Fault FreeTextMode :=
  match v.string?.bind ofName? with
  | some mode => .ok mode
  | Option.none => .error (.quoting host.writingDepth v (.unknownMember "FreeTextMode" v))

end FreeTextMode

/-- Free text as plain text; quoted text keeps its quotes. -/
def plainOf (t : Token) : Token :=
  let text := if t.quoted then String.ofList (Quoting.quoted t.value.toList) else t.value
  { id := t.id, type := .plaintext, value := text, rawValue := text }

/-- What becomes of a token; blank free text is dropped in every mode. -/
def FreeTextMode.shape? (mode : FreeTextMode) (t : Token) : Option Token :=
  if t.isFilter then some t
  else if Text.isBlankString t.value then Option.none
  else match mode with
    | .none => Option.none
    | .plain => some (plainOf t)
    | .tokenize => some t

/-- Tokens with positions that count them. -/
def renumber (tokens : List Token) : List Token :=
  tokens.mapIdx fun i t => { t with pos := .int i }

/-- The tokens of a query with its free text shaped for a document. -/
def shapeTokens (mode : FreeTextMode) (tokens : List Token) : List Token :=
  renumber (tokens.filterMap mode.shape?)

/-- Reads a query and shapes its free text. -/
def parseTokens (fields : List Field) (opts : LexOptions) (mode : FreeTextMode)
    (ids : Nat → String) (query : String) : Except LexFault (List Token) := do
  return shapeTokens mode (← parse fields opts ids query).tokens

/-- The delimiter of a user's option must be one character. Other values pass if they have length
one, and those without a length cannot be checked. -/
def checkDelimiter (host : Host) (delimiter : Value) : Except Fault Value :=
  match delimiter.length? with
  | some 1 => .ok delimiter
  | some _ => .error (ConfigCause.fault host.writingDepth ⟨Option.none, Option.none⟩
      (.badDelimiterOption delimiter))
  | Option.none => .error .wrongType

end FilterQuery.Query

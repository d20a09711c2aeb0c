import FilterQuery.Host
import FilterQuery.LooseToken
import FilterQuery.Query.Snapshot
import FilterQuery.Shape.Checked

/-!
# Writing loose tokens

Loose tokens are written as the tokens they stand for would be. What a host has put into one may
have no text, or one that cannot be written, and then the whole query has none.
-/

namespace FilterQuery.LooseToken

/-! ## Text -/

/-- A value between quotes where it needs them. Lists and tables are looked through for what needs
quotes as if it were their characters, and cannot be quoted. -/
def quoteIfNeeded : Value → Except Fault (List Char)
  | .str s => .ok (Quoting.quoteIfNeeded s.toList)
  | .list items => quoteNothing items (.list items)
  | .table entries => quoteNothing (entries.map fun (k, _) => .str k) (.table entries)
  | _ => .error .wrongType
where
  quoteNothing (parts : List Value) (v : Value) : Except Fault (List Char) :=
    if parts.any fun part => [" ", "\"", "\\"].any (part == .str ·) then .error .noAttribute
    else .ok v.text.toList

/-- The characters of a token, unless they are none because the value of free text is no text. -/
def renderChars? (host : Host) (delimiter : List Char) (t : LooseToken) :
    Except Fault (Option (List Char)) :=
  match t.type.known? with
  | some .filter =>
      if t.value.isFalsy then .ok (some [])
      else do
        let value ← quoteIfNeeded t.value
        t.key.checkWritable host.writingDepth
        t.operator.checkWritable host.writingDepth
        t.value.checkWritable host.writingDepth
        return some
          (t.key.text.toList ++ delimiter ++ t.operator.text.toList ++ delimiter ++ value)
  | some .freeText =>
      if t.value.isFalsy then .ok (some [])
      else match t.value with
        | .str s =>
            .ok (some (if t.quoted.isTruthy then Quoting.quoted s.toList else s.toList))
        | _ => if t.quoted.isTruthy then .error .noAttribute else .ok none
  | some .plaintext | none => match t.value with
      | .str s => .ok (some (Text.trim s.toList))
      | _ => .error .noAttribute

/-- The canonical text of a query. -/
def renderAll (host : Host) (delimiter : String) (tokens : List LooseToken) :
    Except Fault String := do
  let parts ← tokens.mapM (renderChars? host delimiter.toList)
  match parts.mapM fun part => part with
  | some parts => return Query.joinParts parts
  | none => .error .wrongType

theorem renderChars?_ofToken (host : Host) (delimiter : List Char) (t : Token) :
    renderChars? host delimiter (ofToken t) = .ok (some (t.renderChars delimiter)) := by
  obtain ⟨id, type, key, operator, value⟩ := t
  cases type <;> by_cases h : value = "" <;>
    simp [renderChars?, ofToken, LooseType.known?, Token.renderChars, quoteIfNeeded, Value.isFalsy,
      Value.text, Value.isTruthy, Value.checkWritable, h, pure, Except.pure, bind, Except.bind]

/-! ## Snapshots -/

open Shape in
/-- The segment of a token, unless it is a filter without a value, blank free text or empty. -/
def segment? (t : LooseToken) : Except Fault (Option Query.Segment) :=
  let orNull (v : Value) : Value := if v.isFalsy then .null else v
  match t.type.known? with
  | some .filter =>
      if t.value.isFalsy then .ok none
      else
        let operator := if t.operator.isFalsy then .str "is" else t.operator
        let segment : Checked Query.Segment :=
          (fun key operator value invalid invalidReason =>
            { type := .filter, id := some t.id, key, operator, value, invalid, invalidReason })
            <$> (stringOrNull t.key).inside (.key "key")
            <*> (stringOrNull operator).inside (.key "operator")
            <*> (string t.value).inside (.key "value")
            <*> (boolOrNull (orNull t.invalid)).inside (.key "invalid")
            <*> (stringOrNull (orNull t.invalidReason)).inside (.key "invalid_reason")
        some <$> segment.toExcept "QuerySnapshotSegment"
  | some .freeText => match t.value with
      | .str s =>
          .ok (if Text.isBlankString s then none
            else some { type := .freeText, id := some t.id, value := s })
      | _ => .error .noAttribute
  | some .plaintext | none =>
      if t.value.isFalsy then .ok none
      else
        let segment : Checked Query.Segment :=
          (fun value => { type := .plaintext, value }) <$> (string t.value).inside (.key "value")
        some <$> segment.toExcept "QuerySnapshotSegment"

def snapshot (host : Host) (delimiter : String) (tokens : List LooseToken) :
    Except Fault Query.Snapshot := do
  let segments ← tokens.mapM segment?
  return ⟨segments.filterMap fun segment => segment, ← renderAll host delimiter tokens⟩

end FilterQuery.LooseToken

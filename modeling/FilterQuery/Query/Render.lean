import FilterQuery.Quoting
import FilterQuery.Text.Blank
import FilterQuery.Token

/-!
# Writing a query

Tokens are written as canonical query text, with quotes only where they are needed. Blanks are
collapsed and trimmed over the whole text, inside quoted values too.
-/

namespace FilterQuery

/-- The characters of a token; one without a value has none. -/
def Token.renderChars (delimiter : List Char) (t : Token) : List Char :=
  let value := t.value.toList
  match t.type with
  | .filter =>
      if value.isEmpty then []
      else
        t.key.toList ++ delimiter ++ t.operator.toList ++ delimiter ++ Quoting.quoteIfNeeded value
  | .freeText =>
      if value.isEmpty then [] else if t.quoted then Quoting.quoted value else value
  | .plaintext => Text.trim value

/-- The text of a token. -/
def Token.render (delimiter : String) (t : Token) : String :=
  String.ofList (t.renderChars delimiter.toList)

namespace Query

/-- The text of some parts, of which empty ones do not show. -/
def joinParts (parts : List (List Char)) : String :=
  let text := [' '].intercalate (parts.filter fun part => !part.isEmpty)
  String.ofList (Text.trim (Text.collapse text))

/-- The canonical text of a query. -/
def render (delimiter : String) (tokens : List Token) : String :=
  joinParts (tokens.map (·.renderChars delimiter.toList))

end Query

end FilterQuery

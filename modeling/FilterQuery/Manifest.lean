import FilterQuery.Manifest.Rule
import FilterQuery.Query.Parse
import FilterQuery.Shape.Models
import FilterQuery.Value.Json

/-!
# Manifests

A manifest is a document that says how queries are read, which fields there are and which rules
hold. It is loaded whole or refused at its first fault: first the kinds of all rules are looked at,
then the query table, then the fields.
-/

namespace FilterQuery

namespace Manifest

/-- How queries are read. What says whether unknown fields are allowed, and with which operators, is
kept as it was given. -/
structure QueryConfig where
  delimiter : String := ":"
  allowUnknown : Value := .bool false
  unknownOperators : Value := .list [.str "is"]
  freeTextMode : Query.FreeTextMode := .tokenize
deriving DecidableEq

def QueryConfig.lexOptions (q : QueryConfig) : Query.LexOptions where
  allowUnknown := q.allowUnknown.isTruthy
  unknownOperators := .ofValue q.unknownOperators
  delimiter := q.delimiter

end Manifest

structure Manifest where
  query : Manifest.QueryConfig := {}
  fields : List Field := []
  rules : List Manifest.RuleDeclaration := []
  path : Option String := none

namespace Manifest

/-! ## Tables -/

/-- The two parts of an entry given as a list, as text or as a table. -/
def pairOf (index : Nat) : Value → Except Fault (Value × Value)
  | .list [k, v] => if k.isKey then .ok (k, v) else .error .wrongType
  | .list items => .error (.notPair index items.length)
  | .str s => match s.toList with
      | [k, v] => .ok (.str k.toString, .str v.toString)
      | cs => .error (.notPair index cs.length)
  | .table entries => match entries with
      | [(k, _), (v, _)] => .ok (.str k, .str v)
      | entries => .error (.notPair index entries.length)
  | _ => .error .wrongType

def pairsFrom : (index : Nat) → List Value → Except Fault (List (Value × Value))
  | _, [] => .ok []
  | index, v :: vs => do return (← pairOf index v) :: (← pairsFrom (index + 1) vs)

/-- The pairs with one more; a key that is there keeps its place and takes the new value. -/
def putPair (pairs : List (Value × Value)) (k v : Value) : List (Value × Value) :=
  if pairs.any (·.1.isSameKey k) then
    pairs.map fun e => if e.1.isSameKey k then (e.1, v) else e
  else pairs ++ [(k, v)]

/-- A key by its text. -/
def keyText : Value → String
  | .str s => s
  | k => k.json

/-- A table, or what can be taken for one: a list of pairs, whose keys need not be text. -/
def tableOf : Value → Except Fault Entries
  | .table entries => .ok entries
  | .list items => do
      let pairs := (← pairsFrom 0 items).foldl (fun pairs (k, v) => putPair pairs k v) []
      return pairs.map fun (k, v) => (keyText k, v)
  | .str s => if s.isEmpty then .ok [] else .error (.notPair 0 1)
  | _ => .error .wrongType

/-- Whether all keys of what is taken for a table are text. -/
def hasTextKeys : Value → Bool
  | .list items => items.all fun
      | .list (k :: _) => k.string?.isSome
      | _ => true
  | _ => true

/-- What can be gone through: the items of a list, the keys of a table, the letters of a text. -/
def itemsOf : Value → Except Fault (List Value)
  | .list items => .ok items
  | .table entries => .ok (entries.map fun (k, _) => .str k)
  | .str s => .ok (s.toList.map fun c => .str c.toString)
  | _ => .error .wrongType

/-- Does something with each item in order, up to the first fault. -/
def eachFrom {α : Type} (f : Nat → Value → Except Fault α) :
    (index : Nat) → List Value → Except Fault (List α)
  | _, [] => .ok []
  | index, v :: vs => do return (← f index v) :: (← eachFrom f (index + 1) vs)

/-! ## Rules -/

def ruleTable (index : Nat) : String := "rules[" ++ toString index ++ "]"

/-- The declaration in a table of rules; it must name a kind. -/
def declarationOf (path : Option String) (index : Nat) (v : Value) :
    Except Fault RuleDeclaration := do
  let entries ← tableOf v
  let kind := (entries.lookup "kind").getD .null
  if kind.isFalsy then .error (.config ⟨.missingKind, ⟨path, some (ruleTable index)⟩⟩)
  else return { kind, options := entries.without "kind", table := ruleTable index }

/-! ## The query table -/

/-- What a query table asks for. The delimiter is looked at first, then the mode. -/
def queryOf (host : Host) (path : Option String) (entries : Entries) :
    Except Fault QueryConfig := do
  let refuse := ConfigCause.fault host.writingDepth ⟨path, some "query"⟩
  let given := (entries.lookup "delimiter").getD (.str ":")
  let delimiter ← match given with
    | .str s => if s.length = 1 then .ok s else .error (refuse (.badDelimiter given))
    | _ => .error (refuse (.badDelimiter given))
  let mode := (entries.lookup "free_text_mode").getD (.str "tokenize")
  let freeTextMode ← match mode.string?.bind Query.FreeTextMode.ofName? with
    | some m => .ok m
    | none => .error (refuse (.unknownFreeTextMode mode Query.FreeTextMode.names))
  return { delimiter
           allowUnknown := (entries.lookup "allow_unknown_fields").getD (.bool false)
           unknownOperators := (entries.lookup "unknown_field_operators").getD (.list [.str "is"])
           freeTextMode }

/-! ## Fields -/

def fieldTable (index : Nat) : String := "fields[" ++ toString index ++ "]"

/-- The resolver that a field names, if it names one. -/
def resolverOf (refuse : ConfigCause → Fault) : Value → Except Fault (Option Resolver)
  | .null => .ok none
  | .list _ | .table _ => .error .wrongType
  | v => match v.string?.bind Resolver.ofName? with
      | some resolver => .ok (some resolver)
      | none => .error (refuse (.unknownResolver v Resolver.names))

/-- The field of a table. -/
def fieldOf (host : Host) (path : Option String) (index : Nat) (v : Value) :
    Except Fault Field := do
  let refuse := ConfigCause.fault host.writingDepth ⟨path, some (fieldTable index)⟩
  let entries ← tableOf v
  let resolver ← resolverOf refuse ((entries.lookup "value_resolver").getD .null)
  if !hasTextKeys v then .error .wrongType
  else match Field.check { resolver } (entries.without "value_resolver") with
    | .valid field => .ok field
    | .invalid problems => .error (refuse (.invalidField problems))

/-! ## The whole document -/

/-- The manifest of a decoded document. -/
def ofEntries (host : Host) (path : Option String) (data : Entries) : Except Fault Manifest := do
  let rules ← itemsOf ((data.lookup "rules").getD (.list []))
  let rules ← eachFrom (declarationOf path) 0 rules
  let query ← match (data.lookup "query").getD (.table []) with
    | .table entries => queryOf host path entries
    | _ => .error .noAttribute
  let fields ← itemsOf ((data.lookup "fields").getD (.list []))
  let fields ← eachFrom (fieldOf host path) 0 fields
  return { query, fields, rules, path := path.map plainPath }

/-- Builds the rules that a manifest declares. -/
def build {τ : Type} [TokenLike τ] (host : Host) (m : Manifest) : Except Fault (List (Rule τ)) :=
  buildRules host m.path m.rules

end Manifest

end FilterQuery

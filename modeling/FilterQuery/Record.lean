import FilterQuery.Host
import FilterQuery.Log
import FilterQuery.Shape.Models

/-!
# Document records

Tokens can also be collected from the records of a host's document. A record that is neither a
filter nor free text is passed over; one without an id gets a fresh one, and a filter without an
operator gets the usual one.
-/

namespace FilterQuery

/-! ## Ids -/

/-- An id, and how many fresh ones and which records it took to have it. -/
structure EnsuredId where
  id : Value
  taken : Nat
  log : List LogRecord
deriving DecidableEq

/-- The given id, or the fresh one if there is none. Only an id that is missing altogether is worth
a record. -/
def ensureId (fresh : String) (given : Value) : EnsuredId :=
  if given.isTruthy then ⟨given, 0, []⟩
  else ⟨.str fresh, 1, if given = .null then [.idMissing] else []⟩

/-- Ensures several ids out of a supply. -/
def ensureIds (ids : Nat → String) : (n : Nat) → List Value → List EnsuredId
  | _, [] => []
  | n, v :: vs =>
      let ensured := ensureId (ids n) v
      ensured :: ensureIds ids (n + ensured.taken) vs

/-! ## Records -/

/-- The tokens collected so far, the ids taken, the log, and the fault that ended it, if any. -/
structure Collected where
  outcome : Except Fault (List Token)
  idsTaken : Nat
  log : List LogRecord

/-- What stands under a key, or something else where there is nothing. -/
def orElse (entries : Entries) (key : String) (otherwise : Value) : Value :=
  match entries.lookup key with
  | some v => if v.isTruthy then v else otherwise
  | none => otherwise

/-- The data of the token of a record, unless it is passed over; `id` is the id it gets. -/
def recordToken? (entries : Entries) (id : Value) (index : Nat) : Option Entries :=
  let text := Value.str (orElse entries "value" (.str "")).text
  let shared :=
    [("id", id), ("value", text), ("raw_value", text),
      ("pos", (entries.lookup "pos").getD (.int index)),
      ("invalid", .bool ((entries.lookup "invalid").any Value.isTruthy))]
  match entries.lookup "type" with
  | some (.str "filter") =>
      some ([("type", .str "filter"), ("key", orElse entries "key" (.str "")),
        ("operator", orElse entries "operator" (.str "is"))] ++ shared)
  | some (.str "freeText") => some (("type", .str "freeText") :: shared)
  | _ => none

/-- Collects the tokens of the records from the `index`-th on, with fresh ids from the `n`-th on.
The value of a record is written even if the record is passed over. -/
def collectFrom (host : Host) (ids : Nat → String) : (index n : Nat) → List Value → Collected
  | _, n, [] => ⟨.ok [], n, []⟩
  | index, n, .table entries :: rest =>
      match (orElse entries "value" (.str "")).checkWritable host.writingDepth with
      | .error fault => ⟨.error fault, n, []⟩
      | .ok () =>
          let ensured := ensureId (ids n) ((entries.lookup "id").getD .null)
          match recordToken? entries ensured.id index with
          | none => collectFrom host ids (index + 1) n rest
          | some data =>
              match Token.ofEntries data with
              | .error fault => ⟨.error fault, n + ensured.taken, ensured.log⟩
              | .ok token =>
                  let more := collectFrom host ids (index + 1) (n + ensured.taken) rest
                  ⟨more.outcome.map (token :: ·), more.idsTaken, ensured.log ++ more.log⟩
  | _, n, _ :: _ => ⟨.error .noAttribute, n, []⟩

/-- Collects the tokens of a document's records. -/
def collectTokens (host : Host) (ids : Nat → String) (records : List Value) : Collected :=
  collectFrom host ids 0 0 records

end FilterQuery

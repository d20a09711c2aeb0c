import FilterQuery.Editing
import FilterQuery.LooseToken.Render
import FilterQuery.Query.Parse
import FilterQuery.Record
import FilterQuery.Validation

/-!
# Sessions

A session follows a document through the changes of a host. Each step makes a new document, works
out what counts as edited, runs a pass and applies its plan. A host may replace parts of tokens
without a check, so a document holds loose tokens. A step that fails leaves document and history as
they were, but the ids it took stay taken and the questions it asked stay asked.
-/

namespace FilterQuery.Session

/-- What stays the same throughout a session. A rule may answer by turn, so it is given for each
number of questions that it has asked in earlier steps. -/
structure Setup where
  host : Host
  fields : List Field
  rules : List (Nat → Rule LooseToken)
  options : Query.LexOptions := {}

structure State where
  document : List LooseToken := []
  history : List (List LooseToken) := []
  idsTaken : Nat := 0
  /-- For each rule the number of questions it has asked. -/
  asked : List Nat

def start (setup : Setup) : State := { asked := setup.rules.map fun _ => 0 }

/-- How a step changes the document. -/
inductive Change where
  /-- The tokens of a query, with the ids of their twins if `keepIds` says so, and with their free
  text shaped if there is a mode. -/
  | query (query : String) (keepIds : Bool) (mode : Option Value)
  | records (records : List Value)
  | insert (index : Int) (token : Entries)
  | update (id : Value) (parts : Entries)
  | remove (id : Value)
  | undo
  | revalidate
  | unknown (name : String)

structure StepOptions where
  edit : EditOptions := {}
  pruneEmpty : Bool := false

inductive Step where
  | change (change : Change) (options : StepOptions)
  /-- Only writes the document. -/
  | snapshot

/-- What a step that changes the document answers. -/
structure Report where
  editing : List String
  violations : List Violation
  plan : Plan
  document : List LooseToken
  text : String
  consulted : List Consultation
  log : List LogRecord

inductive Reply where
  | report (report : Report)
  | snapshot (snapshot : Query.Snapshot)

/-- The document that a change makes, the ids it takes and what it logs. -/
structure Changed where
  outcome : Except Fault (List LooseToken)
  idsTaken : Nat := 0
  log : List LogRecord := []

/-- Puts a token at an index; negative indices count from the end. -/
def insertAt (index : Int) (t : LooseToken) (tokens : List LooseToken) : List LooseToken :=
  let i := if index < 0 then (tokens.length + index).toNat else index.toNat
  tokens.take i ++ t :: tokens.drop i

/-- The tokens of a query before twins are looked for. -/
def readQuery (setup : Setup) (ids : Nat → String) (query : String) :
    Option Value → Except Query.LexFault (List Token × Nat)
  | none => do
      let parsed ← Query.parse setup.fields setup.options ids query
      return (parsed.tokens, parsed.tokens.length)
  | some mode => do
      let mode ← (Query.FreeTextMode.ofValue setup.host mode).mapError (⟨·, 0⟩)
      let parsed ← Query.parse setup.fields setup.options ids query
      return (Query.shapeTokens mode parsed.tokens, parsed.tokens.length)

/-- Fresh tokens with the ids of their twins in a document. -/
def withKeptIds (document fresh : List LooseToken) : Except Fault (List LooseToken) := do
  document.forM LooseToken.checkStructure
  return reconcile document fresh

/-- Whether a token has an id. -/
def hasId (id : Value) (t : LooseToken) : Bool := .str t.id == id

/-- Makes the document that a change asks for; `ids` are those not taken yet. -/
def makeDocument (setup : Setup) (ids : Nat → String) (s : State) : Change → Changed
  | .query query keepIds mode =>
      match readQuery setup ids query mode with
      | .ok (tokens, taken) =>
          let fresh := tokens.map LooseToken.ofToken
          { outcome := if keepIds then withKeptIds s.document fresh else .ok fresh
            idsTaken := taken }
      | .error e => { outcome := .error e.fault, idsTaken := e.idsTaken }
  | .records records =>
      let collected := collectTokens setup.host ids records
      { outcome := collected.outcome.map (·.map LooseToken.ofToken)
        idsTaken := collected.idsTaken, log := collected.log }
  | .insert index token =>
      { outcome := do
          return insertAt index (LooseToken.ofToken (← Token.ofEntries token)) s.document }
  | .update id parts =>
      { outcome := s.document.mapM fun t => if hasId id t then t.replace parts else .ok t }
  | .remove id => { outcome := .ok (s.document.filter fun t => !hasId id t) }
  | .undo => { outcome := .ok (s.history.head?.getD s.document) }
  | .revalidate => { outcome := .ok s.document }
  | .unknown name => { outcome := .error (.unknownStep name) }

/-- The history after a change: undoing takes an entry away, and a new pass adds none. -/
def historyAfter (s : State) : Change → List (List LooseToken)
  | .undo => s.history.tail
  | .revalidate => s.history
  | _ => s.document :: s.history

def isUndo : Change → Bool
  | .undo => true
  | _ => false

/-- Runs a pass on the document that a change has made. -/
def pass (setup : Setup) (s : State) (change : Change) (options : StepOptions)
    (made : List LooseToken) (log : List LogRecord) : State × Except Fault Report :=
  let edit := { options.edit with isHistory := options.edit.isHistory || isUndo change }
  let editing := editingIds s.document made edit
  let rules := (setup.rules.zip s.asked).map fun (rule, n) => rule n
  let result := validateTokens made setup.fields rules editing options.pruneEmpty
  let document := result.plan.apply made
  let ctx := Validation.context made setup.fields editing
  let asked := (rules.zip s.asked).map fun (rule, n) => n + (rule.consulted ctx).length
  match LooseToken.renderAll setup.host setup.options.delimiter document with
  | .error fault => ({ s with asked }, .error fault)
  | .ok text =>
      ({ s with document, history := historyAfter s change, asked },
        .ok { editing, violations := result.violations, plan := result.plan, document, text
              consulted := Validation.consulted ctx rules
              log := log ++ validationLog made setup.fields rules editing options.pruneEmpty })

/-- Takes a step. -/
def step (setup : Setup) (ids : Nat → String) (s : State) : Step → State × Except Fault Reply
  | .snapshot =>
      (s, .snapshot <$> LooseToken.snapshot setup.host setup.options.delimiter s.document)
  | .change change options =>
      let made := makeDocument setup (fun i => ids (s.idsTaken + i)) s change
      let s := { s with idsTaken := s.idsTaken + made.idsTaken }
      match made.outcome with
      | .error fault => (s, .error fault)
      | .ok tokens =>
          let (s, report) := pass setup s change options tokens made.log
          (s, .report <$> report)

/-- Takes several steps and gives all replies. -/
def steps (setup : Setup) (ids : Nat → String) : State → List Step → List (Except Fault Reply)
  | _, [] => []
  | s, next :: rest =>
      let (s, reply) := step setup ids s next
      reply :: steps setup ids s rest

end FilterQuery.Session

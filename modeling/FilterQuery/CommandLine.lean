import FilterQuery.CommandLine.Arguments
import FilterQuery.Editing
import FilterQuery.Manifest
import FilterQuery.Query.Render
import FilterQuery.Shape.Data
import FilterQuery.Toml.Document
import FilterQuery.Validation

/-!
# The command line program

Three commands show how a query reads, write it in canonical form, and check it against the rules of
a manifest. A command is a function from its arguments and the files it may read to its output and
an exit code. Text with markup is given as it is before it is drawn.
-/

namespace FilterQuery

namespace CommandLine

inductive Output where
  /-- A line with markup. -/
  | markup (text : String)
  | table (title : String) (columns : List String) (rows : List (List String))
  | json (v : Value)
  | line (text : String)
  | errorLine (text : String)
deriving DecidableEq

structure Outcome where
  exitCode : Nat
  output : List Output
deriving DecidableEq

/-- What is found under a file name. -/
inductive FileState where
  | absent
  | directory
  | text (contents : String)

/-- Why a command stops early. -/
inductive Stop where
  | badConfig (message : String)
  | noConfig (path : String)
  /-- A fault that the program does not report. -/
  | unreported (fault : Fault)

/-- What is reported of a stop; a fault that is not reported ends the program. -/
def Stop.outcome : Stop → Except Fault Outcome
  | .badConfig message => .ok ⟨1, [.markup ("[red]Invalid configuration:[/red] " ++ message)]⟩
  | .noConfig path => .ok ⟨1, [.errorLine ("Error: config file not found: " ++ path)]⟩
  | .unreported fault => .error fault

/-- Faults of the configuration are reported. -/
def Stop.ofFault : Fault → Stop
  | .config e => .badConfig e.message
  | fault => .unreported fault

def version : String := "tokenized-search 0.4.0"

/-! ## The manifest -/

def defaultManifestName : String := "search.toml"

end CommandLine

/-- The manifest in the text of a file. -/
def Manifest.ofText (host : Host) (path text : String) : Except Fault Manifest :=
  match Toml.parse host.readingDepth text with
  | .ok data => Manifest.ofEntries host (some path) data
  | .error .malformed => .error (.config ⟨.invalidToml, ⟨some path, none⟩⟩)
  | .error (.longInteger digits) => .error (.longInteger digits)
  | .error .tooDeep => .error .nesting

namespace CommandLine

/-- The file that a command reads its manifest from. -/
def manifestPath (config : Option String) : String :=
  plainPath (config.getD defaultManifestName)

/-- The manifest of a command. Without an option for it, no file means an empty manifest. -/
def loadManifest (host : Host) (files : String → FileState) (config : Option String) :
    Except Stop Manifest :=
  let path := manifestPath config
  match files path with
  | .text contents => (Manifest.ofText host path contents).mapError Stop.ofFault
  | .directory => .error (.unreported .directory)
  | .absent => match config with
      | some _ => .error (.noConfig path)
      | none => .ok {}

/-! ## Reading queries -/

/-- Reads a query, with ids from the `n`-th on. -/
def lex (m : Manifest) (options : Query.LexOptions) (ids : Nat → String) (n : Nat)
    (query : String) : Except Stop Query.Parsed :=
  (Query.parse m.fields options (fun i => ids (n + i)) query).mapError fun e => .ofFault e.fault

/-- The row of a token in a table: position, type, key, operator, value and state. -/
def tokenRow (host : Host) (fields : List Field) (t : Token) : Except Fault (List String) := do
  let state ←
    if t.invalid then
      let reason := match t.invalidReason with
        | none | some "" => "invalid"
        | some reason => reason
      .ok ("[red]" ++ reason ++ "[/red]")
    else do
      let accepted ← match findField fields t.key with
        | some field => field.acceptsValue t.value
        | none => .ok true
      .ok (if accepted then "[green]ok[/green]" else "[yellow]rejected[/yellow]")
  t.pos.checkWritable host.writingDepth
  return [t.pos.text, t.type.name, t.key, t.operator, t.value, state]

def tokenColumns : List String := ["Pos", "Type", "Key", "Operator", "Value", "Status"]

/-! ## The commands -/

/-- The options that a parse command reads its query with. -/
def ParseCommand.lexOptions (host : Host) (c : ParseCommand) (q : Manifest.QueryConfig) :
    Except Stop Query.LexOptions := do
  let delimiter ← match c.delimiter with
    | none => .ok q.delimiter
    | some d => ((Query.checkDelimiter host (.str d)).map fun _ => d).mapError Stop.ofFault
  return { q.lexOptions with
           delimiter
           allowUnknown := c.allowUnknown.getD q.allowUnknown.isTruthy }

/-- Shows the tokens of a query. It is read twice, and the ids of the tokens shown follow those of
the first reading. -/
def ParseCommand.run (host : Host) (c : ParseCommand) (files : String → FileState)
    (ids : Nat → String) : Except Stop (List Output) := do
  let m ← loadManifest host files c.config
  let options ← c.lexOptions host m.query
  let lexed ← lex m options ids 0 c.query
  let mode := c.freeTextMode.getD m.query.freeTextMode
  let tokens := Query.shapeTokens mode (← lex m options ids lexed.tokens.length c.query).tokens
  if c.json then
    return [.json (.table
      [("tokens", .list (tokens.map Token.toValue)),
        ("has_incomplete_quote", .bool lexed.incomplete.isSome),
        ("incomplete_quote_value", .ofOption lexed.incomplete)])]
  let shown ←
    if tokens.isEmpty then .ok (Output.markup "[dim]No tokens.[/dim]")
    else do
      let rows ← (tokens.mapM (tokenRow host m.fields)).mapError Stop.ofFault
      .ok (Output.table "Tokens" tokenColumns rows)
  let openQuote := lexed.incomplete.toList.map fun v =>
    Output.markup ("[yellow]Incomplete quote:[/yellow] " ++ literalString v ++ " is still open")
  return shown :: openQuote

/-- Writes a query in canonical form. -/
def NormalizeCommand.run (host : Host) (c : NormalizeCommand) (files : String → FileState)
    (ids : Nat → String) : Except Stop (List Output) := do
  let m ← loadManifest host files c.config
  let lexed ← lex m m.query.lexOptions ids 0 c.query
  return [.line (Query.render m.query.delimiter lexed.tokens)]

/-- The tokens to check and those that count as edited: all of them, or those that differ from an
earlier query. -/
def ValidateCommand.tokens (c : ValidateCommand) (m : Manifest) (ids : Nat → String) :
    Except Stop (List Token × List String) := do
  let current := (← lex m m.query.lexOptions ids 0 c.query).tokens
  match c.previous with
  | none => return (current, editingIds [] current { forceCheck := true })
  | some previous =>
      let before := (← lex m m.query.lexOptions ids current.length previous).tokens
      let current := reconcile before current
      return (current, editingIds before current {})

/-- The row of a violation: its targets are shown as they would be written. -/
def violationRow (delimiter : String) (tokens : List Token) (v : Violation) : List String :=
  let shown := v.tokenIds.filterMap fun id =>
    (tokens.reverse.find? (·.id == id)).map fun t => Query.render delimiter [t]
  [v.ruleId, v.action.name, v.reason, v.message.getD "", ", ".intercalate shown]

def violationColumns : List String := ["Rule", "Action", "Reason", "Message", "Tokens"]

/-- Checks a query against the rules of the manifest. -/
def ValidateCommand.run (host : Host) (c : ValidateCommand) (files : String → FileState)
    (ids : Nat → String) : Except Stop (List Output) := do
  let m ← loadManifest host files c.config
  let rules ← (m.build host).mapError Stop.ofFault
  let (tokens, editing) ← c.tokens m ids
  let result := validateTokens tokens m.fields rules editing false
  let text := Query.render m.query.delimiter (result.plan.apply tokens)
  if c.json then
    return [.json (.table
      [("violations", .list (result.violations.map Violation.toValue)),
        ("plan", result.plan.toValue),
        ("editing_token_ids", .strings (editing.mergeSort fun a b => a ≤ b)),
        ("query", .str text)])]
  let noRules := if rules.isEmpty then [Output.markup "[dim]No rules configured.[/dim]"] else []
  let findings :=
    if result.isValid then [Output.markup "[green]✓ No violations[/green]"]
    else
      [.table "Violations" violationColumns
          (result.violations.map (violationRow m.query.delimiter tokens)),
        .markup ("\n[dim]" ++ toString result.plan.deleted.length ++ " deleted, " ++
          toString result.plan.marked.length ++ " marked[/dim]")]
  return noRules ++ findings ++ [.line ("Query: " ++ text)]

def Command.run (host : Host) (c : Command) (files : String → FileState) (ids : Nat → String) :
    Except Stop (List Output) :=
  match c with
  | .parse c => c.run host files ids
  | .normalize c => c.run host files ids
  | .validate c => c.run host files ids

/-- Runs the program. It fails with the faults that it does not report. -/
def run (host : Host) (arguments : List String) (files : String → FileState)
    (ids : Nat → String) : Except Fault Outcome :=
  match readInvocation arguments with
  | .usageError => .ok ⟨2, []⟩
  | .help => .ok ⟨0, []⟩
  | .version => .ok ⟨0, [.line version]⟩
  | .command c => match c.run host files ids with
      | .ok output => .ok ⟨0, output⟩
      | .error stop => stop.outcome

end CommandLine

end FilterQuery

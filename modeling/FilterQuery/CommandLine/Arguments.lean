import FilterQuery.Query.Parse

/-!
# Command line arguments

Options may be given in long form, with their value attached by an equals sign or as the next
argument, or in short form, where several may share one dash. Two dashes end the options. The
options of the whole program stand before the command; those of a command may stand between its
arguments. Of an option that is repeated the last one counts.
-/

namespace FilterQuery.CommandLine

/-! ## Options -/

/-- An option and the setting it makes. -/
inductive OptionSpec (σ : Type) where
  | flag (long : String) (setting : σ)
  | value (long : String) (short : Option Char) (setting : String → σ)

variable {σ : Type}

namespace OptionSpec

def hasLong (name : String) : OptionSpec σ → Bool
  | .flag long _ => long == name
  | .value long _ _ => long == name

def hasShort (c : Char) : OptionSpec σ → Bool
  | .flag .. => false
  | .value _ short _ => short == some c

end OptionSpec

/-- The settings that an argument makes, and what is to be made of the next argument if the value
of an option is still to come. -/
abbrev Settings (σ : Type) := List σ × Option (String → σ)

/-- An option in long form, with the value attached to it if there is one. -/
def longOption (specs : List (OptionSpec σ)) (name : String) (attached : Option String) :
    Option (Settings σ) :=
  match specs.find? (·.hasLong name), attached with
  | some (.flag _ setting), none => some ([setting], none)
  | some (.value _ _ setting), some v => some ([setting v], none)
  | some (.value _ _ setting), none => some ([], some setting)
  | _, _ => none

/-- Options in short form. The first one that takes a value takes the rest of the argument, or the
next argument if nothing is left. -/
def shortOptions (specs : List (OptionSpec σ)) : List Char → Option (Settings σ)
  | [] => some ([], none)
  | c :: cs =>
      match specs.find? (·.hasShort c) with
      | some (.value _ _ setting) =>
          if cs.isEmpty then some ([], some setting) else some ([setting (String.ofList cs)], none)
      | some (.flag _ setting) => do
          let (settings, pending) ← shortOptions specs cs
          some (setting :: settings, pending)
      | none => none

/-- An argument that is an option. -/
def option (specs : List (OptionSpec σ)) (argument : List Char) : Option (Settings σ) :=
  match argument with
  | '-' :: '-' :: _ =>
      let name := String.ofList (argument.takeWhile (· ≠ '='))
      match argument.dropWhile (· ≠ '=') with
      | [] => longOption specs name none
      | _ :: attached => longOption specs name (some (String.ofList attached))
  | _ :: cs => shortOptions specs cs
  | [] => none

/-- A single dash is no option. -/
def isOption : List Char → Bool
  | '-' :: _ :: _ => true
  | _ => false

/-- The settings and the remaining arguments of a command line, unless it is malformed. Options end
at two dashes, and at the first other argument unless they may stand between the arguments. -/
def readArguments (specs : List (OptionSpec σ)) (between : Bool) :
    List String → Option (List σ × List String)
  | [] => some ([], [])
  | "--" :: rest => some ([], rest)
  | argument :: rest =>
      if isOption argument.toList then do
        let (settings, pending) ← option specs argument.toList
        match pending, rest with
        | none, rest => do
            let (more, arguments) ← readArguments specs between rest
            some (settings ++ more, arguments)
        | some setting, v :: rest => do
            let (more, arguments) ← readArguments specs between rest
            some (settings ++ setting v :: more, arguments)
        | some _, [] => none
      else if between then do
        let (more, arguments) ← readArguments specs between rest
        some (more, argument :: arguments)
      else some ([], argument :: rest)

/-! ## Commands -/

inductive GlobalSetting where
  | help
  | version
  | verbose
deriving DecidableEq

def globalOptions : List (OptionSpec GlobalSetting) :=
  [.flag "--version" .version, .flag "--verbose" .verbose, .flag "--help" .help]

inductive Setting where
  | help
  | config (path : String)
  | delimiter (delimiter : String)
  | allowUnknown (allow : Bool)
  | freeTextMode (mode : String)
  | previous (query : String)
  | json
deriving DecidableEq

def configOption : OptionSpec Setting := .value "--config" (some 'c') .config

def helpOption : OptionSpec Setting := .flag "--help" .help

def jsonOption : OptionSpec Setting := .flag "--json" .json

def parseOptions : List (OptionSpec Setting) :=
  [configOption, .value "--delimiter" (some 'd') .delimiter,
    .flag "--allow-unknown-fields" (.allowUnknown true),
    .flag "--known-fields-only" (.allowUnknown false),
    .value "--free-text-mode" none .freeTextMode, jsonOption, helpOption]

def normalizeOptions : List (OptionSpec Setting) := [configOption, helpOption]

def validateOptions : List (OptionSpec Setting) :=
  [.value "--previous" (some 'p') .previous, configOption, jsonOption, helpOption]

structure ParseCommand where
  query : String
  config : Option String := none
  delimiter : Option String := none
  allowUnknown : Option Bool := none
  freeTextMode : Option Query.FreeTextMode := none
  json : Bool := false
deriving DecidableEq

structure NormalizeCommand where
  query : String
  config : Option String := none
deriving DecidableEq

structure ValidateCommand where
  query : String
  previous : Option String := none
  config : Option String := none
  json : Bool := false
deriving DecidableEq

inductive Command where
  | parse (c : ParseCommand)
  | normalize (c : NormalizeCommand)
  | validate (c : ValidateCommand)
deriving DecidableEq

def Command.config : Command → Option String
  | .parse c => c.config
  | .normalize c => c.config
  | .validate c => c.config

/-- What a command line asks for. -/
inductive Invocation where
  | usageError
  | help
  | version
  | command (c : Command)
deriving DecidableEq

/-- The last setting of a kind. -/
def last? {α : Type} (settings : List Setting) (pick : Setting → Option α) : Option α :=
  (settings.filterMap pick).getLast?

def configOf (settings : List Setting) : Option String :=
  last? settings fun | .config path => some path | _ => none

def parseCommand (settings : List Setting) (query : String) : Option ParseCommand := do
  let freeTextMode ← match last? settings fun | .freeTextMode m => some m | _ => none with
    | none => some none
    | some name => some <$> Query.FreeTextMode.ofName? name
  some
    { query, config := configOf settings
      delimiter := last? settings fun | .delimiter d => some d | _ => none
      allowUnknown := last? settings fun | .allowUnknown allow => some allow | _ => none
      freeTextMode, json := settings.contains .json }

/-- A command with its settings and its one argument. -/
def command (specs : List (OptionSpec Setting)) (make : List Setting → String → Option Command)
    (arguments : List String) : Invocation :=
  match readArguments specs true arguments with
  | none => .usageError
  | some (settings, arguments) =>
      if settings.contains .help then .help
      else match arguments with
        | [query] => match make settings query with
            | some c => .command c
            | none => .usageError
        | _ => .usageError

/-- What the options of the program ask for by themselves, if anything. -/
def globalInvocation? (settings : List GlobalSetting) : Option Invocation :=
  (settings.find? (· ≠ .verbose)).map fun
    | .version => .version
    | _ => .help

/-- What stands in the place of a command may still be an option of the program. -/
def readNoCommand (arguments : List String) : Invocation :=
  match readArguments globalOptions false arguments with
  | none => .usageError
  | some (settings, _) => (globalInvocation? settings).getD .usageError

/-- Reads a command line. -/
def readInvocation (arguments : List String) : Invocation :=
  match readArguments globalOptions false arguments with
  | none => .usageError
  | some (settings, rest) =>
      match globalInvocation? settings, rest with
      | some invocation, _ => invocation
      | none, "parse" :: rest =>
          command parseOptions (fun settings query => .parse <$> parseCommand settings query) rest
      | none, "normalize" :: rest =>
          command normalizeOptions
            (fun settings query => some (.normalize { query, config := configOf settings })) rest
      | none, "validate" :: rest =>
          command validateOptions
            (fun settings query => some (.validate
              { query, previous := last? settings fun | .previous q => some q | _ => none
                config := configOf settings, json := settings.contains .json })) rest
      | none, rest => readNoCommand rest

end FilterQuery.CommandLine

import FilterQuery.Toml.Scalar

/-!
# TOML documents

A document is read statement by statement. Beside the data, the reader keeps the tables that have
been opened by a header or a dotted key and may not be opened again, and the values that are
complete: no statement may reach into an array or an inline table that was written as a value.
-/

namespace FilterQuery.Toml

/-! ## Tables under construction -/

/-- A dotted key. -/
abbrev Key := List String

/-- Changes the table at the end of a path, making the tables on the way. In a list the last table
is meant, where lists may be entered at all. -/
def update (enterLists : Bool) (f : Entries → Option Entries) : Key → Entries → Option Entries
  | [], es => f es
  | k :: ks, es =>
      match es.lookup k with
      | none => do
          let inner ← update enterLists f ks []
          some (es.put k (.table inner))
      | some (.table inner) => do
          let inner ← update enterLists f ks inner
          some (es.put k (.table inner))
      | some (.list items) =>
          match enterLists, items.getLast? with
          | true, some (.table inner) => do
              let inner ← update enterLists f ks inner
              some (es.put k (.list (items.dropLast ++ [.table inner])))
          | _, _ => none
      | some _ => none

/-- Adds an entry under a key that is not there yet. -/
def define (k : String) (v : Value) (es : Entries) : Option Entries :=
  match es.lookup k with
  | none => some (es ++ [(k, v)])
  | some _ => none

/-- Adds an empty table to the list under a key. -/
def append (k : String) (es : Entries) : Option Entries :=
  match es.lookup k with
  | none => some (es ++ [(k, .list [.table []])])
  | some (.list items) => some (es.put k (.list (items ++ [.table []])))
  | some _ => none

/-- Which paths may not be opened or reached into. -/
structure Closed where
  /-- Tables that have been opened. -/
  opened : List Key := []
  /-- Values that are complete, with all that is inside them. -/
  complete : List Key := []
  /-- Tables made by dotted keys, which count as opened from the next header on. -/
  pending : List Key := []

namespace Closed

def isOpened (c : Closed) (key : Key) : Bool := !key.isEmpty && c.opened.contains key

def isComplete (c : Closed) (key : Key) : Bool := c.complete.any fun path => path.isPrefixOf key

def settle (c : Closed) : Closed := { c with opened := c.opened ++ c.pending, pending := [] }

/-- Forgets everything about a path and what is inside it. -/
def forget (c : Closed) (key : Key) : Closed :=
  { c with
    opened := c.opened.filter fun path => !key.isPrefixOf path
    complete := c.complete.filter fun path => !key.isPrefixOf path }

end Closed

/-! ## Keys -/

def isBareKeyChar (c : Char) : Bool := c.isAlphanum || c = '-' || c = '_'

/-- A part of a dotted key. Strings of several lines are no keys. -/
def keyPart : Reader String
  | '"' :: cs => do
      let (text, rest) ← basicString false .text cs
      some (String.ofList text, rest)
  | '\'' :: cs => do
      let (text, rest) ← literalString false cs
      some (String.ofList text, rest)
  | cs =>
      let part := cs.takeWhile isBareKeyChar
      if part.isEmpty then none else some (String.ofList part, cs.dropWhile isBareKeyChar)

/-- A dotted key with blanks around its parts; the fuel bounds the number of parts. -/
def keyFrom : (fuel : Nat) → Reader Key
  | 0, _ => none
  | fuel + 1, cs => do
      let (part, rest) ← keyPart cs
      match rest.dropWhile isSpace with
      | '.' :: rest => do
          let (parts, rest) ← keyFrom fuel (rest.dropWhile isSpace)
          some (part :: parts, rest)
      | rest => some ([part], rest)

def key (cs : List Char) : Option (Key × List Char) := keyFrom (cs.length + 1) cs

/-- A dotted key without its last part, and that part. -/
def stem (k : Key) : Key × String := (k.dropLast, k.getLastD "")

/-! ## Values -/

/-- A comment up to the end of its line. -/
def skipComment : List Char → Option (List Char)
  | '#' :: cs =>
      if (cs.takeWhile (· ≠ '\n')).any isControl then none else some (cs.dropWhile (· ≠ '\n'))
  | cs => some cs

/-- Skips blanks, line feeds and comments; the fuel bounds the number of comments. -/
def skipBlanks : (fuel : Nat) → List Char → Option (List Char)
  | 0, _ => none
  | fuel + 1, cs =>
      match cs.dropWhile isSpaceOrNewline with
      | '#' :: cs => do skipBlanks fuel (← skipComment ('#' :: cs))
      | cs => some cs

def isContainer : Value → Bool
  | .list _ | .table _ => true
  | _ => false

/-- What an array costs of the depth that is left at its place. -/
def arrayCost : Nat := 2

def inlineTableCost : Nat := 3

/-- The depth that is left inside a container. -/
def enter (cost depth : Nat) : Except Problem Nat :=
  if cost ≤ depth then .ok (depth - cost) else .error .tooDeep

mutual

/-- A value of any kind, at a place where so much depth is left. Every step consumes a character,
which bounds the depth of recursion. -/
def value : (fuel depth : Nat) → List Char → Except Problem (Value × List Char)
  | 0, _, _ => .error .malformed
  | fuel + 1, depth, cs =>
      match cs with
      | '"' :: _ | '\'' :: _ => do
          let (s, rest) ← orMalformed (string cs)
          return (.str s, rest)
      | '[' :: cs => do
          let depth ← enter arrayCost depth
          let cs ← orMalformed (skipBlanks (cs.length + 1) cs)
          let (items, rest) ← arrayItems fuel depth cs
          return (.list items, rest)
      | '\x7b' :: cs => do
          let depth ← enter inlineTableCost depth
          match cs.dropWhile isSpace with
          | '\x7d' :: rest => return (.table [], rest)
          | cs => do
              let (entries, rest) ← inlineEntries fuel depth [] {} cs
              return (.table entries, rest)
      | cs => bareScalar cs

/-- The items of an array from one on, up to the closing bracket. -/
def arrayItems : (fuel depth : Nat) → List Char → Except Problem (List Value × List Char)
  | 0, _, _ => .error .malformed
  | fuel + 1, depth, cs =>
      match cs with
      | ']' :: rest => .ok ([], rest)
      | cs => do
          let (item, rest) ← value fuel depth cs
          match ← orMalformed (skipBlanks (rest.length + 1) rest) with
          | ']' :: rest => return ([item], rest)
          | ',' :: rest => do
              let cs ← orMalformed (skipBlanks (rest.length + 1) rest)
              let (items, rest) ← arrayItems fuel depth cs
              return (item :: items, rest)
          | _ => throw .malformed

/-- The entries of an inline table from one on, up to the closing brace. -/
def inlineEntries : (fuel depth : Nat) → Entries → Closed → List Char →
    Except Problem (Entries × List Char)
  | 0, _, _, _, _ => .error .malformed
  | fuel + 1, depth, es, closed, cs => do
      let (k, rest) ← orMalformed (key cs)
      let '=' :: rest := rest | throw .malformed
      let (v, rest) ← value fuel depth (rest.dropWhile isSpace)
      if closed.isComplete k then throw .malformed
      let (path, last) := stem k
      let es ← orMalformed (update false (define last v) path es)
      match rest.dropWhile isSpace with
      | '\x7d' :: rest => return (es, rest)
      | ',' :: rest =>
          let closed :=
            if isContainer v then { closed with complete := k :: closed.complete } else closed
          inlineEntries fuel depth es closed (rest.dropWhile isSpace)
      | _ => throw .malformed

end

/-! ## Statements -/

/-- The document so far, and the table that the next keys belong to. -/
structure State where
  data : Entries := []
  header : Key := []
  closed : Closed := {}

/-- Opens the table of a header. -/
def openTable (s : State) (k : Key) : Option State := do
  if s.closed.isOpened k || s.closed.isComplete k then none
  let data ← update true some k s.data
  some { data, header := k, closed := { s.closed with opened := k :: s.closed.opened } }

/-- Opens one more table of the list of a header. -/
def openItem (s : State) (k : Key) : Option State := do
  if s.closed.isComplete k then none
  let closed := s.closed.forget k
  let (path, last) := stem k
  let data ← update true (append last) path s.data
  some { data, header := k, closed := { closed with opened := k :: closed.opened } }

/-- The paths that a dotted key goes through in the table of a header. -/
def throughPaths (header k : Key) : List Key :=
  (List.range (k.length - 1)).map fun i => header ++ k.take (i + 1)

/-- Sets the value of a key in the current table. -/
def assign (s : State) (k : Key) (v : Value) : Option State := do
  let through := throughPaths s.header k
  if through.any s.closed.isOpened then none
  let (path, last) := stem k
  let parent := s.header ++ path
  if s.closed.isComplete parent then none
  let data ← update true (define last v) parent s.data
  let complete :=
    if isContainer v then (s.header ++ k) :: s.closed.complete else s.closed.complete
  some { s with data, closed := { s.closed with complete, pending := through ++ s.closed.pending } }

/-- A statement, if the line has one. -/
def statement (depth : Nat) (s : State) (cs : List Char) : Except Problem (State × List Char) :=
  match cs with
  | '[' :: '[' :: cs => do
      let (k, rest) ← orMalformed (key (cs.dropWhile isSpace))
      let s ← orMalformed (openItem { s with closed := s.closed.settle } k)
      let ']' :: ']' :: rest := rest | throw .malformed
      return (s, rest.dropWhile isSpace)
  | '[' :: cs => do
      let (k, rest) ← orMalformed (key (cs.dropWhile isSpace))
      let s ← orMalformed (openTable { s with closed := s.closed.settle } k)
      let ']' :: rest := rest | throw .malformed
      return (s, rest.dropWhile isSpace)
  | '#' :: _ => .ok (s, cs)
  | cs => do
      let (k, rest) ← orMalformed (key cs)
      let '=' :: rest := rest | throw .malformed
      let (v, rest) ← value (2 * rest.length + 2) depth (rest.dropWhile isSpace)
      let s ← orMalformed (assign s k v)
      return (s, rest.dropWhile isSpace)

/-- The statements from a line on; the fuel bounds the number of lines. -/
def statements (depth : Nat) : (fuel : Nat) → State → List Char → Except Problem Entries
  | 0, _, _ => .error .malformed
  | fuel + 1, s, cs =>
      match cs.dropWhile isSpace with
      | [] => .ok s.data
      | '\n' :: cs => statements depth fuel s cs
      | cs => do
          let (s, rest) ← statement depth s cs
          match ← orMalformed (skipComment rest) with
          | [] => return s.data
          | '\n' :: rest => statements depth fuel s rest
          | _ => throw .malformed

/-- Carriage returns, alone or before a line feed, count as line feeds. -/
def plainNewlines : List Char → List Char
  | '\r' :: '\n' :: cs => '\n' :: plainNewlines cs
  | '\r' :: cs => '\n' :: plainNewlines cs
  | c :: cs => c :: plainNewlines cs
  | [] => []

/-- The data of a document, where arrays and inline tables may stand inside one another so deep. -/
def parse (depth : Nat) (text : String) : Except Problem Entries :=
  let cs := plainNewlines text.toList
  statements depth (cs.length + 1) {} cs

end FilterQuery.Toml

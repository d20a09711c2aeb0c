/-!
# Quoted text

Double quotes enclose text that may hold spaces. Inside them a backslash escapes the character after
it; outside it is an ordinary character. One automaton, `Mode`, says where a reader stands, and the
scanner, the unquoting and the splitting of a query into runs all follow it. They differ in what
they do at a character: the scanner reports it, unquoting writes what it stands for.

An atom boundary (U+FFFC) stands for a unit that is no text. The scanner alone knows it: it ends any
open quote.
-/

namespace FilterQuery.Quoting

/-- Where a reader stands: outside quotes, inside them, or inside and just after a backslash. -/
inductive Mode where
  | outside
  | inside
  | escaped
deriving DecidableEq, Inhabited

namespace Mode

/-- Where a reader stands after one more character. -/
def next : Mode → Char → Mode
  | .outside, c => if c = '"' then .inside else .outside
  | .inside, c => if c = '\\' then .escaped else if c = '"' then .outside else .inside
  | .escaped, _ => .inside

def isOpen : Mode → Bool
  | .outside => false
  | .inside | .escaped => true

/-- Where a reader stands after a text. -/
def after (m : Mode) (cs : List Char) : Mode := cs.foldl next m

@[simp] theorem after_nil (m : Mode) : m.after [] = m := rfl

@[simp] theorem after_cons (m : Mode) (c : Char) (cs : List Char) :
    m.after (c :: cs) = (m.next c).after cs := rfl

theorem after_append (m : Mode) (as bs : List Char) :
    m.after (as ++ bs) = (m.after as).after bs := by
  simp [after]

theorem isOpen_eq_false_iff {m : Mode} : m.isOpen = false ↔ m = .outside := by
  cases m <;> simp [isOpen]

end Mode

/-! ## Scanning -/

/-- The object replacement character. -/
def atomBoundary : Char := '\uFFFC'

/-- The no-break space. -/
def hardSpace : Char := '\u00A0'

/-- What a scan reports about a character: its index, and whether the quotes are open after it. An
atom boundary is always reported as outside quotes. -/
structure Visit where
  char : Char
  index : Nat
  inQuote : Bool
deriving DecidableEq

/-- The visits of a scan in order, and whether it ended inside an open quote. -/
structure Scan where
  visits : List Visit
  isOpen : Bool
deriving DecidableEq

/-- Scans from a character on, up to the first visit that `stop` accepts. A scan that stops at an
atom boundary has not closed the quotes yet. -/
def scanFrom (stop : Visit → Bool) : Mode → Nat → List Char → Scan
  | m, _, [] => ⟨[], m.isOpen⟩
  | m, i, c :: cs =>
      let visit : Visit := ⟨c, i, if c = atomBoundary then false else (m.next c).isOpen⟩
      if stop visit then
        ⟨[visit], if c = atomBoundary then m.isOpen else (m.next c).isOpen⟩
      else
        let rest := scanFrom stop (if c = atomBoundary then .outside else m.next c) (i + 1) cs
        ⟨visit :: rest.visits, rest.isOpen⟩

/-- Scans a text, up to the first visit that `stop` accepts. -/
def scan (stop : Visit → Bool) (text : List Char) : Scan := scanFrom stop .outside 0 text

/-- Whether the end of a text is inside an open quote. -/
def isInside (text : List Char) : Bool := (scan (fun _ => false) text).isOpen

/-- Words end at atom boundaries, and outside quotes also at spaces and no-break spaces. -/
def Visit.isWordEnd (v : Visit) : Bool :=
  v.char == atomBoundary || (!v.inQuote && (v.char == ' ' || v.char == hardSpace))

/-- The index of the last word boundary. -/
def lastBoundary? (text : List Char) : Option Nat :=
  ((scan (fun _ => false) text).visits.filter Visit.isWordEnd).getLast?.map Visit.index

/-! ## Unquoting -/

/-- What an escape sequence stands for. Unknown ones stand for themselves, backslash included. -/
def unescape (c : Char) : List Char :=
  if c = '"' || c = '\\' then [c]
  else if c = 'n' then ['\n']
  else if c = 't' then ['\t']
  else ['\\', c]

/-- What a character adds to the unquoted text: quotes and escaping backslashes add nothing. -/
def Mode.spoken : Mode → Char → List Char
  | .outside, c => if c = '"' then [] else [c]
  | .inside, c => if c = '"' || c = '\\' then [] else [c]
  | .escaped, c => unescape c

/-- The unquoted text of what stands after a given place. -/
def unquoteFrom : Mode → List Char → List Char
  | _, [] => []
  | m, c :: cs => m.spoken c ++ unquoteFrom (m.next c) cs

/-- Text read as possibly quoted. -/
structure Unquoted where
  value : List Char
  /-- The last quote was not closed. -/
  isOpen : Bool
  wasQuoted : Bool
deriving DecidableEq

/-- Unquotes text that starts with a quote, all its quoted runs at once; any other text is its own
value. -/
def unquote (text : List Char) : Unquoted :=
  match text with
  | '"' :: cs => ⟨unquoteFrom .inside cs, (Mode.inside.after cs).isOpen, true⟩
  | cs => ⟨cs, false, false⟩

/-! ## Quoting -/

/-- The text with a backslash in front of every quote and backslash. -/
def escape (cs : List Char) : List Char :=
  cs.flatMap fun c => if c = '"' || c = '\\' then ['\\', c] else [c]

/-- The text between quotes, escaped. -/
def quoted (cs : List Char) : List Char := '"' :: escape cs ++ ['"']

/-- Spaces, quotes and backslashes cannot be read back unquoted; other punctuation can. -/
def needsQuotes (cs : List Char) : Bool := cs.any fun c => c == ' ' || c == '"' || c == '\\'

/-- The text, between quotes only where it could not be read back without. -/
def quoteIfNeeded (cs : List Char) : List Char := if needsQuotes cs then quoted cs else cs

end FilterQuery.Quoting

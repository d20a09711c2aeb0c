import FilterQuery.Decimal.Digits
import FilterQuery.Pattern.Syntax

/-!
# Reading patterns

A pattern is read from left to right with a stack of the groups that are open. A lone backslash at
the very end is noticed as soon as the character before it has been read, before anything else is
said about that character. Each step consumes a character, so the length of the pattern bounds
their number.
-/

namespace FilterQuery.Pattern

/-- A group that is being read: where it opened, its earlier alternatives, and the parts of the
current one, the last part first. -/
structure OpenGroup where
  start : Nat
  earlier : List Pattern
  parts : List Pattern

namespace OpenGroup

def new (start : Nat) : OpenGroup := ⟨start, [], []⟩

def push (g : OpenGroup) (p : Pattern) : OpenGroup := { g with parts := p :: g.parts }

/-- Begins another alternative. -/
def branch (g : OpenGroup) : OpenGroup :=
  { g with earlier := g.earlier ++ [seqAll g.parts.reverse], parts := [] }

/-- The pattern that the group stands for. -/
def close (g : OpenGroup) : Pattern := altAll (g.earlier ++ [seqAll g.parts.reverse])

end OpenGroup

/-- Moving on to a lone backslash at the end of the pattern fails. -/
def advance (position : Nat) : List Char → Except PatternError Unit
  | ['\\'] => .error ⟨.danglingEscape, position⟩
  | _ => .ok ()

/-! ## Escapes -/

def namedClass? : Char → Option ClassItem
  | 'd' => some (.named .digit false)
  | 'D' => some (.named .digit true)
  | 'w' => some (.named .word false)
  | 'W' => some (.named .word true)
  | 's' => some (.named .blank false)
  | 'S' => some (.named .blank true)
  | _ => none

def anchor? : Char → Option Anchor
  | 'A' => some .textStart
  | 'Z' => some .textEnd
  | 'b' => some .wordEdge
  | 'B' => some .noWordEdge
  | _ => none

/-- The control character that a letter stands for after a backslash. -/
def control? : Char → Option Char
  | 'a' => some '\x07'
  | 'f' => some '\x0c'
  | 'n' => some '\n'
  | 'r' => some '\r'
  | 't' => some '\t'
  | 'v' => some '\x0b'
  | _ => none

/-- The character that an escape stands for; letters and digits without a meaning are refused. -/
def escapedChar (position : Nat) (c : Char) : Except PatternError Char :=
  match control? c with
  | some d => .ok d
  | none => if c.isAlphanum then .error ⟨.badEscape c, position⟩ else .ok c

/-- An escape outside a character class. -/
def escape (position : Nat) (c : Char) : Except PatternError Pattern :=
  match namedClass? c, anchor? c with
  | some item, _ => .ok (.one ⟨[item], false⟩)
  | none, some a => .ok (.anchor a)
  | none, none => do .ok (.char (← escapedChar position c))

/-- An escape inside a character class, where `\b` is a backspace. -/
def classEscape (position : Nat) (c : Char) : Except PatternError ClassItem :=
  match namedClass? c with
  | some item => .ok item
  | none => if c = 'b' then .ok (.char '\x08') else do .ok (.char (← escapedChar position c))

/-! ## Character classes -/

/-- A single character of a class or an escape: the item, its text, and what follows. -/
def classAtom (position : Nat) :
    List Char → Option (Except PatternError ClassItem × List Char × List Char)
  | [] => none
  | '\\' :: c :: cs => some (classEscape position c, ['\\', c], cs)
  | c :: cs => some (.ok (.char c), [c], cs)

/-- The items of a class from a position on, with the text after the closing bracket. A closing
bracket that comes first is an ordinary character. -/
def classItems (start : Nat) : (fuel position : Nat) → List ClassItem → List Char →
    Except PatternError (List ClassItem × Nat × List Char)
  | 0, _, _, _ => .error ⟨.unclosedClass, start⟩
  | fuel + 1, position, items, cs =>
      match cs, classAtom position cs with
      | _, none => .error ⟨.unclosedClass, start⟩
      | cs, some (item, text, rest) => do
          let after := position + text.length
          advance after rest
          if cs.head? = some ']' && !items.isEmpty then
            return (items, after, rest)
          let item ← item
          match rest with
          | '-' :: rest =>
              advance (after + 1) rest
              match rest, classAtom (after + 1) rest with
              | _, none => .error ⟨.unclosedClass, start⟩
              | bound, some (last, lastText, rest) =>
                  let behind := after + 1 + lastText.length
                  advance behind rest
                  if bound.head? = some ']' then
                    return (items ++ [item, .char '-'], behind, rest)
                  match item, ← last with
                  | .char a, .char b =>
                      if b < a then .error ⟨.badRange text lastText, position⟩
                      else classItems start fuel behind (items ++ [.range a b]) rest
                  | _, _ => .error ⟨.badRange text lastText, position⟩
          | rest => classItems start fuel after (items ++ [item]) rest

/-- A class after its opening bracket at `start`. -/
def charClass (start : Nat) (cs : List Char) :
    Except PatternError (CharClass × Nat × List Char) := do
  match cs with
  | '^' :: cs =>
      advance (start + 2) cs
      let (items, position, rest) ← classItems start (cs.length + 1) (start + 2) [] cs
      return (⟨items, true⟩, position, rest)
  | cs =>
      let (items, position, rest) ← classItems start (cs.length + 1) (start + 1) [] cs
      return (⟨items, false⟩, position, rest)

/-! ## Repetitions -/

/-- Limits in braces: their text, the digits of the least and of the most count, and what follows.
A single count is both. Anything else after an opening brace leaves the brace an ordinary
character. -/
def limits? (cs : List Char) : Option (List Char × List Char × List Char × List Char) :=
  let low := cs.takeWhile Char.isDigit
  match cs.dropWhile Char.isDigit with
  | '}' :: rest => if low.isEmpty then none else some (low ++ ['}'], low, low, rest)
  | ',' :: more =>
      let high := more.takeWhile Char.isDigit
      match more.dropWhile Char.isDigit with
      | '}' :: rest => some (low ++ ',' :: high ++ ['}'], low, high, rest)
      | _ => none
  | _ => none

/-- Counts go up to here, and this one stands for no limit. -/
def unlimitedCount : Nat := 4294967295

/-- The count of a limit, if one is written. -/
def count? (position : Nat) (digits : List Char) : Except PatternError (Option Nat) :=
  if digits.isEmpty then .ok none
  else match Decimal.ofDigits digits with
    | .error n => .error ⟨.longLimit n, position⟩
    | .ok n => if unlimitedCount ≤ n then .error ⟨.hugeLimit, position⟩ else .ok (some n)

/-- Repeats the last part of a group; an anchor cannot be repeated, nor a repetition. -/
def OpenGroup.repeatLast (g : OpenGroup) (position least : Nat) (most : Option Nat) :
    Except PatternError OpenGroup :=
  match g.parts with
  | [] | .anchor _ :: _ => .error ⟨.nothingToRepeat, position⟩
  | .many .. :: _ => .error ⟨.multipleRepeat, position⟩
  | p :: parts => .ok { g with parts := .many p least most .greedy :: parts }

/-- Says how far the repetition goes that is the last part of a group. -/
def OpenGroup.markLast (g : OpenGroup) (greed : Greed) : OpenGroup :=
  match g.parts with
  | .many p least most _ :: parts => { g with parts := .many p least most greed :: parts }
  | _ => g

/-- Reads the mark after a repetition, if there is one: it says how far the repetition goes. -/
def OpenGroup.readMark (g : OpenGroup) (position : Nat) :
    List Char → Except PatternError (OpenGroup × Nat × List Char)
  | '?' :: cs => do
      advance (position + 1) cs
      return (g.markLast .reluctant, position + 1, cs)
  | '+' :: cs => do
      advance (position + 1) cs
      return (g.markLast .possessive, position + 1, cs)
  | cs => .ok (g, position, cs)

/-! ## The whole pattern -/

/-- Reads the rest of a pattern, inside the innermost open group and the groups around it, where so
many groups may stand inside one another. -/
def readFrom (depth : Nat) : (fuel position : Nat) → List Char → OpenGroup → List OpenGroup →
    Except PatternError Pattern
  | 0, _, _, g, _ => .error ⟨.unclosedGroup, g.start⟩
  | _ + 1, _, [], g, [] => .ok g.close
  | _ + 1, _, [], g, _ :: _ => .error ⟨.unclosedGroup, g.start⟩
  | fuel + 1, i, '\\' :: c :: cs, g, outer => do
      advance (i + 2) cs
      readFrom depth fuel (i + 2) cs (g.push (← escape i c)) outer
  | fuel + 1, i, c :: cs, g, outer => do
      if c = ')' && outer.isEmpty then
        throw ⟨.unbalancedClose, i⟩
      if c = '(' && depth ≤ outer.length then
        throw ⟨.tooDeep, i⟩
      advance (i + 1) cs
      let again (g : OpenGroup) (least : Nat) (most : Option Nat) (after : Nat)
          (cs : List Char) := do
        let g ← g.repeatLast i least most
        let (g, after, cs) ← g.readMark after cs
        readFrom depth fuel after cs g outer
      match c, outer with
      | '|', _ => readFrom depth fuel (i + 1) cs g.branch outer
      | ')', around :: outer => readFrom depth fuel (i + 1) cs (around.push (.group g.close)) outer
      | '(', _ =>
          match cs with
          | '?' :: cs => do
              advance (i + 2) cs
              match cs with
              | [] => .error ⟨.endInGroupOptions, i + 2⟩
              | ':' :: cs =>
                  advance (i + 3) cs
                  readFrom depth fuel (i + 3) cs (.new i) (g :: outer)
              | '\\' :: o :: cs =>
                  advance (i + 4) cs
                  .error ⟨.unknownGroupOption ['\\', o], i + 1⟩
              | o :: cs =>
                  advance (i + 3) cs
                  .error ⟨.unknownGroupOption [o], i + 1⟩
          | cs => readFrom depth fuel (i + 1) cs (.new i) (g :: outer)
      | '[', _ => do
          let (cls, after, cs) ← charClass i cs
          readFrom depth fuel after cs (g.push (.one cls)) outer
      | '*', _ => again g 0 none (i + 1) cs
      | '+', _ => again g 1 none (i + 1) cs
      | '?', _ => again g 0 (some 1) (i + 1) cs
      | '\x7b', _ =>
          match limits? cs with
          | none => readFrom depth fuel (i + 1) cs (g.push (.char c)) outer
          | some (text, low, high, cs) => do
              let after := i + 1 + text.length
              advance after cs
              let least := (← count? (i + 1) low).getD 0
              let most ← count? (i + 1) high
              if most.any (· < least) then
                throw ⟨.limitsReversed, i + 1⟩
              again g least most after cs
      | '.', _ => readFrom depth fuel (i + 1) cs (g.push .anyChar) outer
      | '^', _ => readFrom depth fuel (i + 1) cs (g.push (.anchor .textStart)) outer
      | '$', _ => readFrom depth fuel (i + 1) cs (g.push (.anchor .lineEnd)) outer
      | c, _ => readFrom depth fuel (i + 1) cs (g.push (.char c)) outer

/-- Reads a written pattern, where so many groups may stand inside one another. -/
def parse (depth : Nat) (pattern : String) : Except PatternError Pattern := do
  let cs := pattern.toList
  advance 0 cs
  readFrom depth (cs.length + 1) 0 cs (.new 0) []

end FilterQuery.Pattern

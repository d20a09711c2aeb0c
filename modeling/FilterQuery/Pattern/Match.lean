import FilterQuery.Pattern.Syntax
import FilterQuery.Text.Blank
import FilterQuery.Text.WordChar

/-!
# Matching patterns

A pattern takes some places in a text to the places where a match from one of them can end. Places
are kept in ascending order, each once. A text has only finitely many of them, so an unlimited
repetition is complete after as many rounds as there are places, and each round goes on only from
the places that are new. In which order matches are tried makes no difference to where they can end,
except inside a possessive repetition, which keeps to the first match of each round.
-/

namespace FilterQuery

def NamedClass.contains (cls : NamedClass) (c : Char) : Bool :=
  match cls with
  | .digit => Text.isDigit c
  | .word => Text.isWordChar c
  | .blank => Text.isBlank c

def ClassItem.contains (item : ClassItem) (c : Char) : Bool :=
  match item with
  | .char d => c == d
  | .range first last => first ≤ c && c ≤ last
  | .named cls negated => cls.contains c != negated

def CharClass.contains (cls : CharClass) (c : Char) : Bool :=
  cls.items.any (·.contains c) != cls.negated

/-- Whether a word character stands at a place. -/
def wordAt (text : Array Char) (i : Nat) : Bool := text[i]?.any Text.isWordChar

/-- Whether exactly one side of a place is a word character. -/
def atWordEdge (text : Array Char) (i : Nat) : Bool :=
  (i != 0 && wordAt text (i - 1)) != wordAt text i

def Anchor.holds (a : Anchor) (text : Array Char) (i : Nat) : Bool :=
  match a with
  | .textStart => i == 0
  | .lineEnd => i == text.size || (i + 1 == text.size && text[i]? == some '\n')
  | .textEnd => i == text.size
  | .wordEdge => atWordEdge text i
  | .noWordEdge => !text.isEmpty && !atWordEdge text i

namespace Pattern

/-! ## Places -/

/-- The places in one list or the other. -/
def union : (as bs : List Nat) → List Nat
  | [], bs => bs
  | as, [] => as
  | a :: as, b :: bs =>
      if a < b then a :: union as (b :: bs)
      else if b < a then b :: union (a :: as) bs
      else a :: union as bs
termination_by as bs => as.length + bs.length

/-- The places in the first list that are not in the second. -/
def without : (as bs : List Nat) → List Nat
  | [], _ => []
  | as, [] => as
  | a :: as, b :: bs =>
      if a < b then a :: without as (b :: bs)
      else if b < a then without (a :: as) bs
      else without as bs
termination_by as bs => as.length + bs.length

/-- The places reached in exactly `n` steps. A step that leads nowhere new need not be repeated. -/
def reach (step : List Nat → List Nat) : (n : Nat) → List Nat → List Nat
  | 0, places => places
  | n + 1, places =>
      let next := step places
      if next = places then places else reach step n next

/-- The places seen so far, and those reached from the newest of them in at most `n` steps. -/
def reachWithin (step : List Nat → List Nat) : (n : Nat) → (seen newest : List Nat) → List Nat
  | 0, seen, _ => seen
  | n + 1, seen, newest =>
      let more := without (step newest) seen
      if more.isEmpty then seen else reachWithin step n (union seen more) more

/-! ## The first match -/

/-- What tries the matches from a place one after the other until one suits what follows. -/
abbrev Trial := Nat → (Nat → Option Nat) → Option Nat

/-- Repeats a trial exactly `n` times. -/
def trialTimes (body : Trial) : (n : Nat) → Trial
  | 0, i, next => next i
  | n + 1, i, next => body i fun j => trialTimes body n j next

/-- Repeats a trial at most `n` times. A round that does not move is the last one. -/
def trialUpTo (body : Trial) (reluctant : Bool) : (n : Nat) → Trial
  | 0, i, next => next i
  | n + 1, i, next =>
      let further := fun j => if j = i then next i else trialUpTo body reluctant n j next
      if reluctant then next i <|> body i further else body i further <|> next i

/-- Goes on `n` times by the first match, and fails where there is none. -/
def firstTimes (first : Nat → Option Nat) : (n i : Nat) → Option Nat
  | 0, i => some i
  | n + 1, i => (first i).bind (firstTimes first n)

/-- Goes on at most `n` times by the first match, as long as there is one that moves. -/
def firstUpTo (first : Nat → Option Nat) : (n i : Nat) → Nat
  | 0, i => i
  | n + 1, i => match first i with
      | none => i
      | some j => if j = i then i else firstUpTo first n j

/-- How many rounds a repetition may have beyond those it must have. -/
def rounds (text : Array Char) (least : Nat) : (most : Option Nat) → Nat
  | none => text.size + 1
  | some limit => min (limit - least) (text.size + 1)

/-- Tries the matches of a pattern, the preferred ones first. -/
def trial (text : Array Char) : Pattern → Trial
  | .empty, i, next => next i
  | .one cls, i, next => if text[i]?.any cls.contains then next (i + 1) else none
  | .anchor a, i, next => if a.holds text i then next i else none
  | .seq p q, i, next => trial text p i fun j => trial text q j next
  | .alt p q, i, next => trial text p i next <|> trial text q i next
  | .many p least most greed, i, next =>
      let more := rounds text least most
      match greed with
      | .possessive =>
          let first := fun i => trial text p i some
          (firstTimes first least i).bind fun j => next (firstUpTo first more j)
      | .greedy | .reluctant =>
          trialTimes (trial text p) least i fun j =>
            trialUpTo (trial text p) (greed = .reluctant) more j next
  | .group p, i, next => trial text p i next

/-! ## Matches -/

/-- Where a possessive repetition ends that starts at a place. -/
def possessiveEnd? (text : Array Char) (p : Pattern) (least : Nat) (most : Option Nat) (i : Nat) :
    Option Nat :=
  trial text (.many p least most .possessive) i some

/-- The places where a match of the pattern from one of some places can end. -/
def ends (text : Array Char) : Pattern → List Nat → List Nat
  | .empty, places => places
  | .one cls, places => (places.filter fun i => text[i]?.any cls.contains).map (· + 1)
  | .anchor a, places => places.filter (a.holds text)
  | .seq p q, places => ends text q (ends text p places)
  | .alt p q, places => union (ends text p places) (ends text q places)
  | .many p least most .possessive, places =>
      places.foldr (fun i reached => union (possessiveEnd? text p least most i).toList reached) []
  | .many p least most _, places =>
      let start := reach (ends text p) least places
      reachWithin (ends text p) (rounds text least most) start start
  | .group p, places => ends text p places

/-- Whether the pattern matches somewhere in the text. -/
def occursIn (p : Pattern) (text : String) : Bool :=
  let cs := text.toList.toArray
  !(p.ends cs (List.range (cs.size + 1))).isEmpty

end Pattern

end FilterQuery

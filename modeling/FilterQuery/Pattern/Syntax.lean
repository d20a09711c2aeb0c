/-!
# Patterns

A small language of patterns for programs that have no other reader of patterns to offer: characters
and classes of them, anchors, groups, alternatives and repetitions. It has no references to groups,
no assertions about what stands around a place, and no options.
-/

namespace FilterQuery

/-- A class of characters named by an escape. -/
inductive NamedClass where
  | digit
  | word
  | blank
deriving DecidableEq

/-- A part of a character class. -/
inductive ClassItem where
  | char (c : Char)
  | range (first last : Char)
  | named (cls : NamedClass) (negated : Bool)
deriving DecidableEq

/-- A set of characters: those in some item, or those in none. -/
structure CharClass where
  items : List ClassItem
  negated : Bool
deriving DecidableEq

/-- A condition on the place between two characters. -/
inductive Anchor where
  | textStart
  /-- The end of the text, or the place before a line feed that ends it. -/
  | lineEnd
  | textEnd
  | wordEdge
  | noWordEdge
deriving DecidableEq

/-- How far a repetition goes where it may go further or not. -/
inductive Greed where
  /-- As far as it can, and less far if what follows asks for it. -/
  | greedy
  /-- No further than what follows asks for. -/
  | reluctant
  /-- As far as it can, each time by the first match that is found, and never less far. -/
  | possessive
deriving DecidableEq

inductive Pattern where
  | empty
  | one (cls : CharClass)
  | anchor (a : Anchor)
  | seq (p q : Pattern)
  | alt (p q : Pattern)
  /-- At least `least` times and, if there is a limit, at most that many. -/
  | many (p : Pattern) (least : Nat) (most : Option Nat) (greed : Greed)
  | group (p : Pattern)
deriving DecidableEq

namespace Pattern

/-- The single character `c`. -/
def char (c : Char) : Pattern := .one ⟨[.char c], false⟩

/-- Any character but a line feed. -/
def anyChar : Pattern := .one ⟨[.char '\n'], true⟩

/-- One after the other. -/
def seqAll : List Pattern → Pattern
  | [] => .empty
  | [p] => p
  | p :: ps => .seq p (seqAll ps)

/-- One of several. -/
def altAll : List Pattern → Pattern
  | [] => .empty
  | [p] => p
  | p :: ps => .alt p (altAll ps)

end Pattern

/-- What is wrong with a written pattern. -/
inductive PatternFault where
  | danglingEscape
  | unclosedGroup
  | unclosedClass
  | nothingToRepeat
  | multipleRepeat
  | unbalancedClose
  | badEscape (c : Char)
  | limitsReversed
  /-- A limit of a repetition is too large to be counted with. -/
  | hugeLimit
  /-- A limit of a repetition has so many digits, more than are read. -/
  | longLimit (digits : Nat)
  /-- Groups stand inside one another deeper than they are read. -/
  | tooDeep
  | badRange (first last : List Char)
  | endInGroupOptions
  | unknownGroupOption (written : List Char)
deriving DecidableEq

structure PatternError where
  fault : PatternFault
  position : Nat
deriving DecidableEq

def PatternFault.message : PatternFault → String
  | .danglingEscape => "bad escape (end of pattern)"
  | .unclosedGroup => "missing ), unterminated subpattern"
  | .unclosedClass => "unterminated character set"
  | .nothingToRepeat => "nothing to repeat"
  | .multipleRepeat => "multiple repeat"
  | .unbalancedClose => "unbalanced parenthesis"
  | .badEscape c => "bad escape \\" ++ c.toString
  | .limitsReversed => "min repeat greater than max repeat"
  | .hugeLimit => "the repetition number is too large"
  | .longLimit _ => "the repetition number is too long"
  | .tooDeep => "groups are nested too deep"
  | .badRange first last => "bad character range " ++ String.ofList (first ++ '-' :: last)
  | .endInGroupOptions => "unexpected end of pattern"
  | .unknownGroupOption written => "unknown extension ?" ++ String.ofList written

/-- The message names the position, and in a pattern of several lines also the line and the column,
both counted from one. -/
def PatternError.message (e : PatternError) (pattern : String) : String :=
  let before := pattern.toList.take e.position
  let place :=
    if pattern.toList.contains '\n' then
      let line := before.count '\n' + 1
      let column := (before.reverse.takeWhile (· ≠ '\n')).length + 1
      " (line " ++ toString line ++ ", column " ++ toString column ++ ")"
    else ""
  e.fault.message ++ " at position " ++ toString e.position ++ place

end FilterQuery

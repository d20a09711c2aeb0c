import FilterQuery.Text.LowerCase.Tables

/-!
# Lower case

Full lower-casing of text. Two characters need more than a table: a dotted capital I becomes two
characters, and a capital sigma becomes a final sigma when a cased letter stands before it and none
after it, case-ignorable characters not counted.
-/

namespace FilterQuery.Text

def isCaseIgnorable (c : Char) : Bool := caseIgnorableRanges.contains c

def isCased (c : Char) : Bool := casedRanges.contains c

def CaseRun.covers (run : CaseRun) (n : Nat) : Bool :=
  run.first ≤ n && n ≤ run.last && (n - run.first) % run.step == 0

/-- The lower-case counterpart of a character that has a single one, whatever stands around it. -/
def lowerChar (c : Char) : Char :=
  if c.toNat < 128 then c.toLower
  else match caseRuns.find? (·.covers c.toNat) with
    | some run => Char.ofNat (c.toNat + run.shift).toNat
    | none => c

/-- Whether the first character that is not case-ignorable is cased. -/
def startsCased (cs : List Char) : Bool :=
  match cs.dropWhile isCaseIgnorable with
  | [] => false
  | c :: _ => isCased c

/-- Lower-cases a text of which the part before is known only by whether its last character that is
not case-ignorable is cased. -/
def lowerFrom : (afterCased : Bool) → List Char → List Char
  | _, [] => []
  | afterCased, c :: cs =>
      let low :=
        if c = 'Σ' then [if afterCased && !startsCased cs then 'ς' else 'σ']
        else if c = 'İ' then ['i', '\u0307']
        else [lowerChar c]
      low ++ lowerFrom (if isCaseIgnorable c then afterCased else isCased c) cs

/-- The string in lower case. -/
def lower (s : String) : String := String.ofList (lowerFrom false s.toList)

end FilterQuery.Text

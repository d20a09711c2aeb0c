/-!
# Blank characters

Text is trimmed, tested for blankness and collapsed with one class of blank characters: the
separators of Unicode and the control characters that act as separators. The main statements say
what trimming and collapsing leave: no blank at either end (`isBlank_head_trim`,
`isBlank_getLast_trim`), no blank but the space (`eq_space_of_mem_collapse`), and no two of them
together (`isBlank_of_collapse_eq_append`).
-/

namespace FilterQuery.Text

/-- The blank characters; the zero-width ones (U+200B, U+FEFF) are not among them. -/
def isBlank (c : Char) : Bool :=
  let n := c.toNat
  n == 0x20 || (0x9 ≤ n && n ≤ 0xD) || (0x1C ≤ n && n ≤ 0x1F) || n == 0x85 || n == 0xA0 ||
    n == 0x1680 || (0x2000 ≤ n && n ≤ 0x200A) || n == 0x2028 || n == 0x2029 || n == 0x202F ||
    n == 0x205F || n == 0x3000

theorem isBlank_of_isWhitespace {c : Char} (h : c.isWhitespace = true) : isBlank c = true := by
  simp only [Char.isWhitespace, Bool.or_eq_true, decide_eq_true_eq] at h
  rcases h with ((rfl | rfl) | rfl) | rfl <;> rfl

/-- The text without the blanks at its ends. -/
def trim (cs : List Char) : List Char :=
  ((cs.dropWhile isBlank).reverse.dropWhile isBlank).reverse

theorem isBlank_head_dropWhile {cs : List Char} {c : Char}
    (h : (cs.dropWhile isBlank).head? = some c) : isBlank c = false := by
  have hnot := List.head?_dropWhile_not isBlank cs
  rw [h] at hnot
  simpa using hnot

theorem isBlank_getLast_trim {cs : List Char} {c : Char} (h : (trim cs).getLast? = some c) :
    isBlank c = false := by
  rw [trim, List.getLast?_reverse] at h
  exact isBlank_head_dropWhile h

/-- What is left is the front of the text without its leading blanks. -/
theorem trim_append_takeWhile (cs : List Char) :
    trim cs ++ ((cs.dropWhile isBlank).reverse.takeWhile isBlank).reverse =
      cs.dropWhile isBlank := by
  rw [trim, ← List.reverse_append, List.takeWhile_append_dropWhile, List.reverse_reverse]

theorem isBlank_head_trim {cs : List Char} {c : Char} (h : (trim cs).head? = some c) :
    isBlank c = false := by
  have hhead : (cs.dropWhile isBlank).head? = some c := by
    rw [← trim_append_takeWhile, List.head?_append, h]
    rfl
  exact isBlank_head_dropWhile hhead

/-- Each run of blanks becomes one space; `inRun` says that the run was already written. -/
def collapseFrom : (inRun : Bool) → List Char → List Char
  | _, [] => []
  | inRun, c :: cs =>
      if isBlank c then
        if inRun then collapseFrom true cs else ' ' :: collapseFrom true cs
      else c :: collapseFrom false cs

/-- The text with each run of blanks written as one space. -/
def collapse (cs : List Char) : List Char := collapseFrom false cs

theorem eq_space_of_mem_collapseFrom {inRun : Bool} {cs : List Char} {c : Char}
    (h : c ∈ collapseFrom inRun cs) (hc : isBlank c = true) : c = ' ' := by
  induction cs generalizing inRun with
  | nil => simp [collapseFrom] at h
  | cons d ds ih =>
    rw [collapseFrom] at h
    split at h
    · split at h
      · exact ih h
      · rcases List.mem_cons.1 h with rfl | h
        · rfl
        · exact ih h
    · rename_i hd
      rcases List.mem_cons.1 h with rfl | h
      · exact absurd hc hd
      · exact ih h

theorem eq_space_of_mem_collapse {cs : List Char} {c : Char} (h : c ∈ collapse cs)
    (hc : isBlank c = true) : c = ' ' :=
  eq_space_of_mem_collapseFrom h hc

/-- Inside a run nothing more is written before a character that is no blank. -/
theorem isBlank_head_collapseFrom {cs : List Char} {c : Char}
    (h : (collapseFrom true cs).head? = some c) : isBlank c = false := by
  induction cs with
  | nil => simp [collapseFrom] at h
  | cons d ds ih =>
    rw [collapseFrom] at h
    split at h
    · exact ih h
    · rename_i hd
      obtain rfl : d = c := by simpa using h
      simpa using hd

theorem isBlank_of_collapseFrom_eq_append {inRun : Bool} {cs as bs : List Char} {a b : Char}
    (h : collapseFrom inRun cs = as ++ a :: b :: bs) (ha : isBlank a = true) :
    isBlank b = false := by
  induction cs generalizing inRun as with
  | nil => simp [collapseFrom] at h
  | cons d ds ih =>
    rw [collapseFrom] at h
    split at h
    · split at h
      · exact ih h
      · cases as with
        | nil =>
          obtain ⟨-, htail⟩ := List.cons.inj h
          exact isBlank_head_collapseFrom (by rw [htail]; rfl)
        | cons _ as =>
          obtain ⟨-, htail⟩ := List.cons.inj h
          exact ih htail
    · rename_i hd
      cases as with
      | nil =>
        obtain ⟨rfl, -⟩ := List.cons.inj h
        exact absurd ha hd
      | cons _ as =>
        obtain ⟨-, htail⟩ := List.cons.inj h
        exact ih htail

/-- Of two neighbours in a collapsed text the second is no blank if the first is one. -/
theorem isBlank_of_collapse_eq_append {cs as bs : List Char} {a b : Char}
    (h : collapse cs = as ++ a :: b :: bs) (ha : isBlank a = true) : isBlank b = false :=
  isBlank_of_collapseFrom_eq_append h ha

/-- Whether there is nothing but blanks; so of the empty text. -/
def allBlank (cs : List Char) : Bool := cs.all isBlank

/-- Whether a string holds nothing but blanks. -/
def isBlankString (s : String) : Bool := allBlank s.toList

end FilterQuery.Text

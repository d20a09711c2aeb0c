import FilterQuery.Proofs.Escapes
import FilterQuery.Proofs.Splitting

/-!
# Reading a word

A word that can be cut at the delimiter is a filter of the text in front, if that is a known key
(`parseWord_of_cut`). What stands behind is cut once more where an operator of the key is written in
front of the value (`chooseIn_of_cut`), and then the rest is the value, delimiters and all. So a
filter that was written as a word is read as that filter (`parseWord_written`).
-/

namespace FilterQuery.Query

open Quoting (quoteIfNeeded unquote)

variable {fields : List Field} {opts : LexOptions}

/-- Operator and raw text of the value, from what stands behind the key of a word. -/
def chooseIn (operators : OperatorSet) (delimiter behind : List Char) :
    Except Fault (Value × List Char) :=
  let parts := splitFrom delimiter 0 behind
  chooseOperator operators delimiter parts.1 parts.2

/-- A delimiter sets off an operator only if it is one of the key. -/
theorem chooseIn_of_cut {operators : OperatorSet} {delimiter behind part raw : List Char}
    (hne : delimiter ≠ []) (hcut : FirstCut delimiter behind part raw) :
    chooseIn operators delimiter behind =
      if operators.accepts (String.ofList part) then .ok (.str (String.ofList part), raw)
      else do return (← operators.first, behind) := by
  obtain ⟨hpart, hparts⟩ := List.cons.inj (hcut.split_eq hne)
  have hbehind := intercalate_split hne behind
  rw [hcut.split_eq hne] at hbehind
  rw [chooseIn, chooseOperator, hpart, hparts, intercalate_split hne, hbehind,
    List.isEmpty_eq_false_iff.mpr (split_ne_nil delimiter raw), Bool.not_false, Bool.true_and]

/-- Without a delimiter behind the key there is only a value. -/
theorem chooseIn_of_not_occurs {operators : OperatorSet} {delimiter behind : List Char}
    (h : ¬ delimiter <:+: behind) :
    chooseIn operators delimiter behind = do return (← operators.first, behind) := by
  obtain ⟨hpart, hparts⟩ := List.cons.inj (split_of_not_occurs h)
  rw [chooseIn, chooseOperator, hpart, hparts, List.intercalate_singleton]
  rfl

/-- A word is a filter of the text in front of the first delimiter, if that is a key that counts. -/
theorem parseWord_of_cut {word key behind : List Char} (hdelimiter : opts.delimiter.toList ≠ [])
    (hquoted : ¬ (word.head? = some '"' ∧ word.getLast? = some '"'))
    (hcut : FirstCut opts.delimiter.toList word key behind) (hkey : key ≠ []) :
    parseWord fields opts word =
      match opts.lookUp fields (String.ofList key) with
      | none => .ok none
      | some (field, operators) => do
          let (operator, raw) ← chooseIn operators opts.delimiter.toList behind
          let rawValue := String.ofList (unquote raw).value
          return some ⟨String.ofList key, operator, ← resolveFor field rawValue, rawValue⟩ := by
  obtain ⟨c, cs, rfl⟩ := List.exists_cons_of_ne_nil hkey
  have hword : word.isEmpty = false := by
    rw [hcut.text_eq]
    rfl
  have hquoted : (word.head? == some '"' && word.getLast? == some '"') = false := by
    rw [Bool.eq_false_iff, Ne, Bool.and_eq_true, beq_iff_eq, beq_iff_eq]
    exact hquoted
  simp only [parseWord, hword, List.isEmpty_eq_false_iff.mpr hdelimiter, hquoted, Bool.or_false,
    Bool.false_eq_true, if_false, hcut.split_eq hdelimiter]
  rfl

/-- Key and operator of a written filter are taken as they are, and its value is unquoted. -/
theorem parseWord_written {d : Char} (hdelimiter : opts.delimiter.toList = [d])
    {key operator : List Char} (hne : key ≠ []) (hquote : key.head? ≠ some '"') (hkey : d ∉ key)
    (hoperator : d ∉ operator) {field : Option Field} {operators : OperatorSet}
    (hlookUp : opts.lookUp fields (String.ofList key) = some (field, operators))
    (haccepts : operators.accepts (String.ofList operator) = true) {value : List Char}
    (hresolve : resolveFor field (String.ofList value) = .ok (.str (String.ofList value))) :
    parseWord fields opts (key ++ d :: (operator ++ d :: quoteIfNeeded value)) =
      .ok (some ⟨String.ofList key, .str (String.ofList operator), .str (String.ofList value),
        String.ofList value⟩) := by
  have hcons : opts.delimiter.toList ≠ [] := by
    rw [hdelimiter]
    exact List.cons_ne_nil d []
  -- key and operator hold no delimiter, so the first two cuts are behind them
  have hcut : FirstCut opts.delimiter.toList (key ++ d :: (operator ++ d :: quoteIfNeeded value))
      key (operator ++ d :: quoteIfNeeded value) := by
    rw [hdelimiter]
    exact firstCut_singleton hkey _
  have hchoose : chooseIn operators opts.delimiter.toList (operator ++ d :: quoteIfNeeded value) =
      .ok (.str (String.ofList operator), quoteIfNeeded value) := by
    rw [hdelimiter, chooseIn_of_cut (List.cons_ne_nil d []) (firstCut_singleton hoperator _),
      if_pos haccepts]
  have hhead : (key ++ d :: (operator ++ d :: quoteIfNeeded value)).head? ≠ some '"' := by
    cases key with
    | nil => exact absurd rfl hne
    | cons c cs => exact hquote
  rw [parseWord_of_cut hcons (fun h => hhead h.1) hcut hne, hlookUp]
  simp only [hchoose, bind, Except.bind, Quoting.unquote_quoteIfNeeded, hresolve]
  rfl

end FilterQuery.Query

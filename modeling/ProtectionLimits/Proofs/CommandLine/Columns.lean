import ProtectionLimits.CommandLine
import ProtectionLimits.Proofs.Log.Reading

/-!
Contract: the columns of the listing.

Owns the width of a number, and where things stand in a line of the listing of the standard
limits. No key is wider than its column, and neither is any value up to the greatest integer of
32 bits, so in all lines the value ends in the same place and its origin begins in the same one.

Does not own which values are listed.
-/

set_option autoImplicit false

namespace ProtectionLimits

/-! ### The width of a number -/

namespace Decimal

/-- No value of a setting is wider than the column of values. -/
theorem length_integer_le {value : Int} (nonnegative : 0 ≤ value)
    (small : value ≤ Setting.greatest) : (integer value).length ≤ CommandLine.valueWidth := by
  cases value with
  | ofNat number =>
      have bounded : number ≤ 2147483647 := Int.ofNat_le.1 small
      rw [← String.length_toList, toList_integer_natural]
      exact length_digits_le (show 0 < 10 by decide) (Nat.lt_of_le_of_lt bounded (by decide))
  | negSucc number => exact absurd nonnegative (by omega)

end Decimal

namespace CommandLine

/-! ### Lines -/

/-- Whether a line shows a key, a value that ends in a column, and a label in brackets that begin
two blanks behind it. Between the key and the value are blanks only. -/
def IsLine (column : Nat) (key : String) (value : Int) (label line : String) : Prop :=
  ∃ blanks, 0 < blanks ∧
    line = key ++ String.ofList (List.replicate blanks ' ') ++ Decimal.integer value ++ "  (" ++
      label ++ ")" ∧
    (key ++ String.ofList (List.replicate blanks ' ') ++ Decimal.integer value).length = column

/-- The line of a row whose key and value fit their columns. -/
theorem isLine_rowLine {row : Row} {key : String} {value : Int} {width : Nat}
    (isKey : row.limit.key = .text key) (isValue : row.value = .int value)
    (keyFits : key.length ≤ width) (valueFits : (Decimal.integer value).length ≤ valueWidth) :
    IsLine (width + 2 + valueWidth) key value row.state.label (rowLine width row) := by
  let blanks :=
    (width - key.length) + 2 + (valueWidth - (Decimal.integer value).length)
  refine ⟨blanks, by omega, ?_, ?_⟩
  · have spaces : String.ofList (List.replicate blanks ' ') =
        String.ofList (List.replicate (width - key.length) ' ') ++ "  " ++
          String.ofList (List.replicate (valueWidth - (Decimal.integer value).length) ' ') := by
      apply String.toList_injective
      simp only [blanks, ← List.replicate_append_replicate, String.toList_append,
        String.toList_ofList]
      rfl
    have displayedKey : row.limit.key.display = key := by rw [isKey]; rfl
    have displayedValue : row.value.display = Decimal.integer value := by rw [isValue]; rfl
    rw [rowLine, displayedKey, displayedValue, spaces, Text.padRight, Text.padLeft]
    simp only [String.append_assoc]
  · simp only [String.length_append, String.length_ofList, List.length_replicate, blanks]
    omega

/-- There is no line break in a line, unless there is one in its key or its label. -/
theorem IsLine.lineBreak_not_mem {column : Nat} {key : String} {value : Int} {label line : String}
    (isLine : IsLine column key value label line) (notInKey : '\n' ∉ key.toList)
    (notInLabel : '\n' ∉ label.toList) : '\n' ∉ line.toList := by
  obtain ⟨blanks, -, rfl, -⟩ := isLine
  have notInValue : '\n' ∉ (Decimal.integer value).toList := by
    intro member
    rcases Decimal.isDigit_or_of_mem_integer member with digit | sign
    · cases digit
    · cases sign
  have notInBlanks : '\n' ∉ (String.ofList (List.replicate blanks ' ')).toList := by
    intro member
    rw [String.toList_ofList] at member
    cases List.eq_of_mem_replicate member
  have upToColumn := Text.lineBreak_not_mem_append
    (Text.lineBreak_not_mem_append notInKey notInBlanks) notInValue
  have notInOpening : '\n' ∉ "  (".toList := by simp
  have notInClosing : '\n' ∉ ")".toList := by simp
  have upToLabel := Text.lineBreak_not_mem_append
    (Text.lineBreak_not_mem_append upToColumn notInOpening) notInLabel
  exact Text.lineBreak_not_mem_append upToLabel notInClosing

/-! ### The standard limits -/

/-- The length of the longest key of a standard limit. -/
def standardWidth : Nat := 27

/-- The column of keys is as wide as the longest key. -/
theorem keyWidth_of_standard {rows : List Row}
    (standard : rows.map Row.limit = Limit.standardTable) :
    keyWidth rows = standardWidth := by
  have byKeys : keyWidth rows = ((rows.map Row.limit).map fun limit =>
      limit.key.display.length).foldl max 0 := by
    rw [keyWidth, List.foldl_map, List.foldl_map]
  rw [byKeys, standard]
  rfl

theorem length_key_le (standard : StandardLimit) : standard.entry.key.length ≤ standardWidth := by
  cases standard <;> decide

end CommandLine

end ProtectionLimits

import ProtectionLimits.Number.Shortest
import ProtectionLimits.Proofs.Numeral
import ProtectionLimits.Proofs.Setting

/-!
Contract: which texts are settings, by what they spell.

Owns what a text gives as a setting when its body is a numeral and when it is none, and the
spellings of an integer. A spelling of an integer of 32 bits is the same setting as the integer
itself. Beyond the range the two part: the integer is accepted and its text is refused. Owns also
what becomes of a numeric value that is written down and set again: an integer comes back, and the
written form of any other number is no setting.

Does not own the grammar of numerals; `Numeral` does.
-/

set_option autoImplicit false

namespace ProtectionLimits.Setting

open Numeral (IsBody Spells)

/-- Whether a numeral is out of the range of settings: it has more than 4300 digits, or it is no
integer of 32 bits. -/
def IsOutOfRange (numeral : Numeral) : Prop :=
  4300 < numeral.digits.length ∨ numeral.amount < -2 ^ 31 ∨ 2 ^ 31 - 1 < numeral.amount

theorem isInRange_iff (numeral : Numeral) : isInRange numeral = true ↔ ¬ IsOutOfRange numeral := by
  simp only [isInRange, Bool.and_eq_true, decide_eq_true_eq, Numeral.value_eq_amount]
  simp only [IsOutOfRange, maximalDigits, least, greatest]
  omega

section Texts

variable {content : String} {body : List Char} (isBody : IsBody content.toList body)
  (property : Value)

include isBody

theorem parse_of_no_numeral (noNumeral : ¬ ∃ numeral, Spells body numeral) :
    parse property (.text content) = .error (.settingNotInteger content property) := by
  rw [parse, parseText, (Numeral.read?_eq_none_iff isBody).2 noNumeral]

theorem parse_of_outOfRange {numeral : Numeral} (spells : Spells body numeral)
    (outside : IsOutOfRange numeral) :
    parse property (.text content) = .error (.settingOutOfRange content property) := by
  have notInRange : ¬ isInRange numeral = true :=
    fun inRange => (isInRange_iff numeral).1 inRange outside
  rw [parse, parseText, (Numeral.read?_eq_some_iff isBody).2 spells]
  exact if_neg notInRange

theorem parse_of_inRange {numeral : Numeral} (spells : Spells body numeral)
    (inside : ¬ IsOutOfRange numeral) :
    parse property (.text content) = .ok (clamp numeral.amount) := by
  rw [parse, parseText, (Numeral.read?_eq_some_iff isBody).2 spells, ← Numeral.value_eq_amount]
  exact if_pos ((isInRange_iff numeral).2 inside)

end Texts

/-! ### Spellings of an integer -/

/-- Whether a text is a spelling of an integer: an optional sign, any zeros, the digits, and at
most one line end behind them, with no more than 4300 digits in all. -/
def IsSpelling (content : String) (number : Int) : Prop :=
  ∃ body numeral, IsBody content.toList body ∧ Spells body numeral ∧
    numeral.amount = number ∧ numeral.digits.length ≤ 4300

/-- Whether an integer has 32 bits. -/
def IsShort (number : Int) : Prop := -2 ^ 31 ≤ number ∧ number ≤ 2 ^ 31 - 1

instance (number : Int) : Decidable (IsShort number) :=
  inferInstanceAs (Decidable (_ ∧ _))

/-- A spelling of an integer of 32 bits is the same setting as the integer. -/
theorem parse_of_isSpelling {content : String} {number : Int}
    (isSpelling : IsSpelling content number) (short : IsShort number) (property : Value) :
    parse property (.text content) = parse property (.int number) := by
  obtain ⟨body, numeral, isBody, spells, rfl, fewDigits⟩ := isSpelling
  have inside : ¬ IsOutOfRange numeral := by
    rintro (manyDigits | tooSmall | tooLarge)
    · exact absurd manyDigits (Nat.not_lt.2 fewDigits)
    · exact absurd tooSmall (Int.not_lt.2 short.1)
    · exact absurd tooLarge (Int.not_lt.2 short.2)
  exact parse_of_inRange isBody property spells inside

theorem length_digits_ofInt_le {number : Int} (short : IsShort number) :
    (Numeral.ofInt number).digits.length ≤ 10 := by
  obtain ⟨notBelow, notAbove⟩ := short
  cases number with
  | ofNat number =>
      rw [Int.ofNat_eq_natCast] at notAbove
      exact Decimal.length_digits_le (by decide) (by omega)
  | negSucc number => exact Decimal.length_digits_le (by decide) (by omega)

/-- An integer of 32 bits is spelled by its written form. -/
theorem isSpelling_integer {number : Int} (short : IsShort number) :
    IsSpelling (Decimal.integer number) number :=
  ⟨_, Numeral.ofInt number, Numeral.isBody_integer number, Numeral.spells_integer number,
    Numeral.amount_ofInt number, Nat.le_trans (length_digits_ofInt_le short) (by decide)⟩

/-- The written form of any other integer is out of range. -/
theorem parse_integer_of_not_isShort {number : Int} (long : ¬ IsShort number) (property : Value) :
    parse property (.text (Decimal.integer number)) =
      .error (.settingOutOfRange (Decimal.integer number) property) := by
  have outside : IsOutOfRange (Numeral.ofInt number) := by
    rw [IsOutOfRange, Numeral.amount_ofInt]
    unfold IsShort at long
    omega
  exact parse_of_outOfRange (Numeral.isBody_integer number) property
    (Numeral.spells_integer number) outside

/-! ### Written numbers -/

/-- A number is never written with digits and signs only. -/
theorem exists_mark_mem_written (quantity : Number) :
    ∃ mark ∈ ['.', 'e', 'n'], mark ∈ quantity.written.toList := by
  have positionalOrScientific (layout : Number.Layout) (digits : List Char) (power : Int) :
      '.' ∈ layout.write digits power ∨ 'e' ∈ layout.write digits power := by
    unfold Number.Layout.write
    split
    · split
      · exact .inl (by simp)
      · exact .inl (by simp)
    · exact .inr (by simp)
  cases quantity with
  | finite negative significand shift =>
      have inMagnitude : ∃ mark ∈ ['.', 'e', 'n'], mark ∈ (if significand = 0 then ['0', '.', '0']
          else Number.writtenMagnitude significand shift) := by
        split
        · exact ⟨'.', by simp, by simp⟩
        · rcases positionalOrScientific .standard _ _ with point | exponent
          · exact ⟨'.', by simp, point⟩
          · exact ⟨'e', by simp, exponent⟩
      obtain ⟨mark, isMark, member⟩ := inMagnitude
      refine ⟨mark, isMark, ?_⟩
      rw [Number.written, String.toList_ofList]
      cases negative with
      | false => exact member
      | true => exact List.mem_cons_of_mem '-' member
  | infinite negative =>
      cases negative with
      | false => exact ⟨'n', by simp, by decide⟩
      | true => exact ⟨'n', by simp, by decide⟩
  | nan => exact ⟨'n', by simp, by decide⟩

theorem parse_written (quantity : Number) (property : Value) :
    parse property (.text quantity.written) =
      .error (.settingNotInteger quantity.written property) := by
  obtain ⟨mark, isMark, member⟩ := exists_mark_mem_written quantity
  have isBody := Numeral.isBody_withoutLineEnd quantity.written.toList
  refine parse_of_no_numeral isBody property ?_
  rintro ⟨numeral, spells⟩
  have inBody : mark ∈ Numeral.withoutLineEnd quantity.written.toList := by
    rcases isBody with ended | ⟨unended, -⟩
    · rw [ended, List.mem_append, List.mem_singleton] at member
      rcases member with inBody | rfl
      · exact inBody
      · exact absurd isMark (by decide)
    · exact unended ▸ member
  have notPlain : ∀ mark ∈ ['.', 'e', 'n'],
      ¬ ('0' ≤ mark ∧ mark ≤ '9' ∨ mark = '+' ∨ mark = '-') := by
    simp
  exact notPlain mark isMark (spells.digit_or_sign inBody)

end ProtectionLimits.Setting

import Mathlib.Data.List.Induction
import Mathlib.Data.Nat.Digits.Defs
import ProtectionLimits.Setting

/-!
Contract: numerals apart from how they are read.

Owns the grammar of numerals as a relation between characters and what they spell, their values
by the places of their digits, and the written form of an integer as one of its spellings. What
is read in a text is the one numeral that it spells, and nothing is read in a text that spells
none.

Does not own which numerals a setting may use; `Setting` does.
-/

set_option autoImplicit false

namespace ProtectionLimits

namespace Decimal

/-! ### Digits and places -/

theorem toList_integer_natural (number : Nat) :
    (integer (.ofNat number)).toList = digits number :=
  String.toList_ofList

theorem toList_integer_negative (number : Nat) :
    (integer (.negSucc number)).toList = '-' :: digits (number + 1) := by
  simp only [integer, natural, String.toList_append, String.toList_ofList]
  rfl

/-- A number below a power of ten has no more digits than the power has zeros. -/
theorem length_digits_le {number width : Nat} (positive : 0 < width)
    (small : number < 10 ^ width) : (digits number).length ≤ width := by
  induction width generalizing number with
  | zero => exact absurd positive (Nat.lt_irrefl 0)
  | succ width inductionHypothesis =>
      rw [digits]
      split
      · rw [List.length_singleton]
        omega
      · rename_i large
        have more : 0 < width := by
          rcases Nat.eq_zero_or_pos width with rfl | more
          · exact absurd small large
          · exact more
        have front := inductionHypothesis more (show number / 10 < 10 ^ width by omega)
        rw [List.length_append, List.length_singleton]
        omega

/-- The figure that a digit stands for. -/
def figure (character : Char) : Nat := character.toNat - '0'.toNat

/-- The number of a run of digits, by the places of its figures: the last one counts ones. -/
def placeValue (characters : List Char) : Nat := Nat.ofDigits 10 (characters.reverse.map figure)

theorem placeValue_append (front : List Char) (last : Char) :
    placeValue (front ++ [last]) = figure last + 10 * placeValue front := by
  simp [placeValue, Nat.ofDigits_cons]

/-- Reading digits one by one gives each the weight of its place. -/
theorem valueOf_eq_placeValue (characters : List Char) :
    valueOf characters = placeValue characters := by
  induction characters using List.reverseRecOn with
  | nil => rfl
  | append_singleton front last inductionHypothesis =>
      rw [valueOf_append, placeValue_append, inductionHypothesis, append, figure, Nat.add_comm]
      rfl

theorem isDigit_iff (character : Char) :
    isDigit character = true ↔ '0' ≤ character ∧ character ≤ '9' := by
  simp only [isDigit, Bool.and_eq_true, decide_eq_true_eq, Char.le_def, UInt32.le_iff_toNat_le]
  exact Iff.rfl

end Decimal

namespace Numeral

/-! ### The grammar -/

/-- Whether some characters are one or more ASCII digits and nothing else. -/
def IsRun (characters : List Char) : Prop :=
  characters ≠ [] ∧ ∀ character ∈ characters, '0' ≤ character ∧ character ≤ '9'

/-- Whether some characters spell a numeral: an optional sign and a run of digits. -/
inductive Spells : List Char → Numeral → Prop where
  | unsigned {digits : List Char} (isRun : IsRun digits) : Spells digits ⟨false, digits⟩
  | plus {digits : List Char} (isRun : IsRun digits) : Spells ('+' :: digits) ⟨false, digits⟩
  | minus {digits : List Char} (isRun : IsRun digits) : Spells ('-' :: digits) ⟨true, digits⟩

/-- The integer that a numeral stands for, by the places of its digits. -/
def amount (numeral : Numeral) : Int :=
  if numeral.negative then -(Decimal.placeValue numeral.digits : Int)
  else Decimal.placeValue numeral.digits

theorem value_eq_amount (numeral : Numeral) : numeral.value = numeral.amount := by
  rw [value, amount, Decimal.valueOf_eq_placeValue]

theorem isRun_iff (characters : List Char) :
    (characters ≠ [] ∧ characters.all Decimal.isDigit = true) ↔ IsRun characters := by
  simp only [IsRun, List.all_eq_true, Decimal.isDigit_iff]

instance (characters : List Char) : Decidable (IsRun characters) :=
  decidable_of_iff _ (isRun_iff characters)

theorem IsRun.head_ne_of_lt {sign : Char} {digits rest : List Char} (isRun : IsRun digits)
    (isSign : sign < '0') : digits ≠ sign :: rest := by
  rintro rfl
  exact absurd (isRun.2 sign List.mem_cons_self).1 (Char.not_le.2 isSign)

theorem ofDigits?_eq_some_iff {negative : Bool} {characters : List Char} {numeral : Numeral} :
    ofDigits? negative characters = some numeral ↔
      IsRun characters ∧ numeral = ⟨negative, characters⟩ := by
  rw [ofDigits?, ← isRun_iff]
  split
  case isTrue isRun => simp [isRun, eq_comm]
  case isFalse noRun => exact iff_of_false nofun fun accepted => noRun accepted.1

/-- What is found in some characters is what they spell. -/
theorem spelled?_eq_some_iff {characters : List Char} {numeral : Numeral} :
    spelled? characters = some numeral ↔ Spells characters numeral := by
  constructor
  · intro found
    unfold spelled? at found
    split at found
    · obtain ⟨isRun, rfl⟩ := ofDigits?_eq_some_iff.1 found
      exact .minus isRun
    · obtain ⟨isRun, rfl⟩ := ofDigits?_eq_some_iff.1 found
      exact .plus isRun
    · obtain ⟨isRun, rfl⟩ := ofDigits?_eq_some_iff.1 found
      exact .unsigned isRun
  · intro spells
    cases spells with
    | minus isRun => exact ofDigits?_eq_some_iff.2 ⟨isRun, rfl⟩
    | plus isRun => exact ofDigits?_eq_some_iff.2 ⟨isRun, rfl⟩
    | unsigned isRun =>
        rw [spelled?]
        · exact ofDigits?_eq_some_iff.2 ⟨isRun, rfl⟩
        · exact fun rest => isRun.head_ne_of_lt (by decide)
        · exact fun rest => isRun.head_ne_of_lt (by decide)

/-- There is nothing in a numeral but digits and signs. -/
theorem Spells.digit_or_sign {characters : List Char} {numeral : Numeral}
    (spells : Spells characters numeral) {character : Char} (member : character ∈ characters) :
    '0' ≤ character ∧ character ≤ '9' ∨ character = '+' ∨ character = '-' := by
  cases spells with
  | unsigned isRun => exact .inl (isRun.2 character member)
  | plus isRun =>
      rcases List.mem_cons.1 member with sign | digit
      · exact .inr (.inl sign)
      · exact .inl (isRun.2 character digit)
  | minus isRun =>
      rcases List.mem_cons.1 member with sign | digit
      · exact .inr (.inr sign)
      · exact .inl (isRun.2 character digit)

theorem Spells.unique {characters : List Char} {numeral other : Numeral}
    (spells : Spells characters numeral) (spellsOther : Spells characters other) :
    numeral = other := by
  rw [← spelled?_eq_some_iff] at spells spellsOther
  exact Option.some.inj (spells.symm.trans spellsOther)

/-! ### The line end -/

/-- Whether some characters are a body, with or without one line end behind it. -/
def IsBody (characters body : List Char) : Prop :=
  characters = body ++ ['\n'] ∨ characters = body ∧ ∀ front, characters ≠ front ++ ['\n']

theorem withoutLineEnd_append (body : List Char) : withoutLineEnd (body ++ ['\n']) = body := by
  simp [withoutLineEnd]

theorem isBody_withoutLineEnd (characters : List Char) :
    IsBody characters (withoutLineEnd characters) := by
  unfold withoutLineEnd
  split
  case isTrue ended =>
      obtain ⟨body, rfl⟩ := List.getLast?_eq_some_iff.1 ended
      exact .inl (by rw [List.dropLast_concat])
  case isFalse unended =>
      exact .inr ⟨rfl, fun front ended => unended (List.getLast?_eq_some_iff.2 ⟨front, ended⟩)⟩

theorem IsBody.withoutLineEnd_eq {characters body : List Char} (isBody : IsBody characters body) :
    withoutLineEnd characters = body := by
  rcases isBody with rfl | ⟨rfl, unended⟩
  · exact withoutLineEnd_append body
  · rw [withoutLineEnd, if_neg]
    intro ended
    obtain ⟨front, isFront⟩ := List.getLast?_eq_some_iff.1 ended
    exact unended front isFront

/-- Nothing is read in a text whose body spells no numeral, and what it spells otherwise. -/
theorem read?_eq_some_iff {text : String} {body : List Char} (isBody : IsBody text.toList body)
    {numeral : Numeral} : read? text = some numeral ↔ Spells body numeral := by
  rw [read?, isBody.withoutLineEnd_eq, spelled?_eq_some_iff]

theorem read?_eq_none_iff {text : String} {body : List Char} (isBody : IsBody text.toList body) :
    read? text = none ↔ ¬ ∃ numeral, Spells body numeral := by
  simp only [Option.eq_none_iff_forall_ne_some, ne_eq, read?_eq_some_iff isBody, not_exists]

/-! ### Written integers -/

/-- The numeral that an integer is written as. -/
def ofInt : Int → Numeral
  | .ofNat number => ⟨false, Decimal.digits number⟩
  | .negSucc number => ⟨true, Decimal.digits (number + 1)⟩

theorem isRun_digits (number : Nat) : IsRun (Decimal.digits number) :=
  (isRun_iff _).1 ⟨Decimal.digits_ne_nil number,
    List.all_eq_true.2 fun _ member => Decimal.isDigit_of_mem_digits member⟩

theorem spells_integer (number : Int) :
    Spells (Decimal.integer number).toList (ofInt number) := by
  cases number with
  | ofNat number =>
      rw [Decimal.toList_integer_natural]
      exact .unsigned (isRun_digits number)
  | negSucc number =>
      rw [Decimal.toList_integer_negative]
      exact .minus (isRun_digits (number + 1))

/-- What is read in a written integer is that integer. -/
theorem amount_ofInt (number : Int) : (ofInt number).amount = number := by
  cases number with
  | ofNat number =>
      rw [amount, ofInt, ← Decimal.valueOf_eq_placeValue, Decimal.valueOf_digits]
      rfl
  | negSucc number =>
      rw [amount, ofInt, ← Decimal.valueOf_eq_placeValue, Decimal.valueOf_digits]
      rfl

/-- No run of digits ends a line. -/
theorem IsRun.ne_append_lineEnd {digits : List Char} (isRun : IsRun digits) (front : List Char) :
    digits ≠ front ++ ['\n'] := by
  rintro rfl
  have isDigit := isRun.2 '\n' (List.mem_append_right front List.mem_cons_self)
  exact absurd isDigit.1 (by decide)

/-- A written integer ends without a line end. -/
theorem isBody_integer (number : Int) :
    IsBody (Decimal.integer number).toList (Decimal.integer number).toList := by
  refine .inr ⟨rfl, fun front ended => ?_⟩
  cases number with
  | ofNat number =>
      rw [Decimal.toList_integer_natural] at ended
      exact (isRun_digits number).ne_append_lineEnd front ended
  | negSucc number =>
      rw [Decimal.toList_integer_negative] at ended
      obtain ⟨rfl, same⟩ | ⟨front, rfl, same⟩ := List.cons_eq_append_iff.1 ended
      · cases same
      · exact (isRun_digits (number + 1)).ne_append_lineEnd front same

end Numeral

end ProtectionLimits

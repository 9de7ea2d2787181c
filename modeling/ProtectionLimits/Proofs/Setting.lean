import ProtectionLimits.Setting

/-!
Contract: what a setting gives, apart from the property that it is for.

Owns the value of a setting without any property, and what the fault of a refused
setting holds. The property is only named in faults: it decides neither whether a
setting is accepted nor what it gives.
-/

set_option autoImplicit false

namespace ProtectionLimits.Setting

/-- The value that a setting gives, if it is accepted. -/
def value? (setting : Value) : Option Int := (parse .absent setting).toOption

theorem toOption_parse (property setting : Value) :
    (parse property setting).toOption = value? setting := by
  cases setting with
  | text content =>
      simp only [value?, parse, parseText]
      split
      · rfl
      · split <;> rfl
  | _ => rfl

theorem parse_of_value? {setting : Value} {value : Int} (property : Value)
    (accepted : value? setting = some value) : parse property setting = .ok value := by
  rw [← toOption_parse property] at accepted
  cases parsed : parse property setting with
  | error fault =>
      rw [parsed] at accepted
      cases accepted
  | ok other =>
      rw [parsed] at accepted
      cases accepted
      rfl

theorem exists_parse_error {setting : Value} (property : Value)
    (refused : value? setting = none) : ∃ fault, parse property setting = .error fault := by
  rw [← toOption_parse property] at refused
  cases parsed : parse property setting with
  | error fault => exact ⟨fault, rfl⟩
  | ok value =>
      rw [parsed] at refused
      cases refused

/-- A text never gives more than the range of numerals allows. -/
theorem parseText_le_greatest {property : Value} {content : String} {value : Int}
    (parsed : parseText property content = .ok value) : value ≤ greatest := by
  unfold parseText at parsed
  split at parsed
  · cases parsed
  · split at parsed
    case isTrue numeral _ inRange =>
        cases parsed
        simp only [isInRange, Bool.and_eq_true, decide_eq_true_eq] at inRange
        exact Int.max_le.2 ⟨by decide, inRange.2⟩
    case isFalse => cases parsed

def GivesOnly (admitted : Int → Prop) (setting : Value) : Prop :=
  ∀ property value, parse property setting = .ok value → admitted value

theorem givesOnly_nonneg (setting : Value) : GivesOnly (0 ≤ ·) setting :=
  fun _ _ parsed => parse_nonneg parsed

/-- A setting that is no integer beyond the range of numerals gives nothing beyond it. -/
theorem givesOnly_bounded {setting : Value}
    (bounded : ∀ integer, setting = .int integer → integer ≤ greatest) :
    GivesOnly (fun value => 0 ≤ value ∧ value ≤ greatest) setting := by
  intro property value parsed
  refine ⟨parse_nonneg parsed, ?_⟩
  cases setting with
  | int integer =>
      cases parsed
      exact Int.max_le.2 ⟨by decide, bounded integer rfl⟩
  | text content => exact parseText_le_greatest parsed
  | _ => cases parsed

/-- What is neither an integer nor a text is refused for its kind. -/
theorem parse_of_other {setting : Value} (property : Value)
    (notInteger : ∀ value, setting ≠ .int value) (notText : ∀ content, setting ≠ .text content) :
    parse property setting = .error (.settingKind setting.kind) := by
  cases setting with
  | int value => exact absurd rfl (notInteger value)
  | text content => exact absurd rfl (notText content)
  | _ => rfl

/-- The fault of a text that is refused holds the property and the text. -/
theorem parse_text_error {property : Value} {content : String} {fault : Fault}
    (refused : parse property (.text content) = .error fault) :
    fault = .settingNotInteger content property ∨
      fault = .settingOutOfRange content property := by
  simp only [parse, parseText] at refused
  split at refused
  · exact .inl (Except.error.inj refused).symm
  · split at refused
    · cases refused
    · exact .inr (Except.error.inj refused).symm

/-- A number fault names the property and shows the setting as it was passed. -/
theorem number?_of_parse_error {property setting : Value} {fault : Fault}
    (refused : parse property setting = .error fault)
    (isNumber : fault.errorClass = .limitsNumber) :
    fault.number? = some (property, setting) := by
  cases setting with
  | text content =>
      rcases parse_text_error refused with rfl | rfl
      · rfl
      · rfl
  | int value => cases refused
  | _ =>
      cases refused
      cases isNumber

end ProtectionLimits.Setting

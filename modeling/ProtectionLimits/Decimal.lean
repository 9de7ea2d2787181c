/-!
Contract: decimal digits of natural numbers and integers.

Owns the digits of a number, most significant first and without leading zeros,
the number that a run of digits stands for, the written form of an integer, and
when an integer has too many digits to be written. `valueOf_digits` says that writing
and reading agree. Does not own which numerals a setting may use; `Numeral` does.
-/

set_option autoImplicit false

namespace ProtectionLimits.Decimal

/-- The character of a digit below ten. -/
def digit (value : Nat) : Char := Char.ofNat (0x30 + value)

def isDigit (character : Char) : Bool :=
  0x30 ≤ character.toNat && character.toNat ≤ 0x39

/-- The digits of a number, most significant first; zero has the one digit zero. -/
def digits (number : Nat) : List Char :=
  if number < 10 then [digit number]
  else digits (number / 10) ++ [digit (number % 10)]
termination_by number

/-- Reads one more digit behind those already read. -/
def append (value : Nat) (character : Char) : Nat :=
  10 * value + (character.toNat - 0x30)

/-- The number that a run of digits stands for. -/
def valueOf (characters : List Char) : Nat :=
  characters.foldl append 0

def natural (number : Nat) : String := String.ofList (digits number)

/-- The written form of an integer: a minus sign before the digits when it is negative. -/
def integer : Int → String
  | .ofNat number => natural number
  | .negSucc number => "-" ++ natural (number + 1)

/-- The most digits with which an integer is written where someone asks for its text. -/
def mostDigits : Nat := 4300

/-- Whether an integer has more digits than that. The sign is no digit. -/
def isTooLong (value : Int) : Bool := Nat.pow 10 mostDigits ≤ value.natAbs

/-- What is said of an integer with too many digits. -/
def tooLongMessage : String :=
  "Exceeds the limit (" ++ natural mostDigits ++ " digits) for integer string conversion; " ++
    "use sys.set_int_max_str_digits() to increase the limit"

/-! ### Reading what was written -/

theorem toNat_digit {value : Nat} (small : value < 10) :
    (digit value).toNat = 0x30 + value := by
  have valid : (0x30 + value).isValidChar := by
    left
    omega
  rw [digit, Char.ofNat, dif_pos valid]
  rfl

theorem isDigit_digit {value : Nat} (small : value < 10) :
    isDigit (digit value) = true := by
  simp [isDigit, toNat_digit small]
  omega

theorem append_digit (value : Nat) {next : Nat} (small : next < 10) :
    append value (digit next) = 10 * value + next := by
  simp [append, toNat_digit small]

theorem valueOf_append (front : List Char) (last : Char) :
    valueOf (front ++ [last]) = append (valueOf front) last := by
  simp [valueOf]

/-- A number is the value of its own digits. -/
theorem valueOf_digits (number : Nat) : valueOf (digits number) = number := by
  fun_induction digits number with
  | case1 number small =>
      simp [valueOf, append_digit 0 small]
  | case2 number large inductionHypothesis =>
      rw [valueOf_append, inductionHypothesis, append_digit _ (Nat.mod_lt _ (by omega))]
      omega

theorem digits_ne_nil (number : Nat) : digits number ≠ [] := by
  fun_induction digits number with
  | case1 => simp
  | case2 => simp

theorem isDigit_of_mem_digits {number : Nat} {character : Char}
    (member : character ∈ digits number) : isDigit character = true := by
  fun_induction digits number with
  | case1 number small =>
      rw [List.mem_singleton] at member
      exact member ▸ isDigit_digit small
  | case2 number large inductionHypothesis =>
      rcases List.mem_append.1 member with front | last
      · exact inductionHypothesis front
      · rw [List.mem_singleton] at last
        exact last ▸ isDigit_digit (Nat.mod_lt _ (by omega))

end ProtectionLimits.Decimal

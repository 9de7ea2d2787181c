import ProtectionLimits.Text.ByteReader

/-!
Contract: texts written with ASCII letters and digits.

Owns the way to write a text as its ASCII characters and, behind the last hyphen, a
row of numbers that say which other characters stand where. A number is written
least digit first, in base 36, and the digit that ends it lies under a threshold
that depends on a bias. The bias follows the numbers before.
-/

set_option autoImplicit false

namespace ProtectionLimits.Text.Punycode

/-! ### Numbers -/

def threshold (place bias : Nat) : Nat := max 1 (min 26 (36 * (place + 1) - bias))

theorem one_le_threshold (place bias : Nat) : 1 ≤ threshold place bias := by
  unfold threshold
  omega

theorem threshold_le (place bias : Nat) : threshold place bias ≤ 26 := by
  unfold threshold
  omega

/-- A difference divided until it is small, and what that adds to the bias. -/
def damped (added difference : Nat) : Nat × Nat :=
  if 455 < difference then damped (added + 36) (difference / 35) else (added, difference)
termination_by difference
decreasing_by exact Nat.div_lt_self (by omega) (by omega)

/-- The bias behind a difference, with so many characters in the text. -/
def nextBias (difference : Nat) (isFirst : Bool) (count : Nat) : Nat :=
  let halved := if isFirst then difference / 700 else difference / 2
  let (added, left) := damped 0 (halved + halved / count)
  added + 36 * left / (left + 38)

/-- The value of a digit: letters in upper case come first. -/
def digit? (character : Char) : Option Nat :=
  let point := character.toNat
  if 0x41 ≤ point && point ≤ 0x5a then some (point - 0x41)
  else if 0x30 ≤ point && point ≤ 0x39 then some (point - 0x30 + 26)
  else none

def digitChar (value : Nat) : Char :=
  if value < 26 then Char.ofNat (0x61 + value) else Char.ofNat (0x30 + (value - 26))

/-! ### Reading -/

/-- A number at the beginning of a row, with the rest of the row. -/
def readNumber (bias place weight value : Nat) :
    List Char → Except DecodingRefusal (Nat × List Char)
  | [] => .error .codeCut
  | character :: rest =>
      match digit? character with
      | none => .error (.codeDigit character)
      | some digit =>
          let limit := threshold place bias
          let value := value + digit * weight
          if digit < limit then .ok (value, rest)
          else readNumber bias (place + 1) (weight * (36 - limit)) value rest

theorem length_readNumber_lt {bias place weight value : Nat} {row rest : List Char} {number : Nat}
    (found : readNumber bias place weight value row = .ok (number, rest)) :
    rest.length < row.length := by
  induction row generalizing place weight value with
  | nil => simp [readNumber] at found
  | cons character others inductionHypothesis =>
      unfold readNumber at found
      split at found
      · cases found
      · simp only at found
        split at found
        · simp only [Except.ok.injEq, Prod.mk.injEq] at found
          simp [found.2]
        · have shorter := inductionHypothesis found
          simp only [List.length_cons]
          omega

/-- A text on the way: the characters so far, the place from which the next one is
counted, the last character that was put in, and the bias. -/
structure Progress where
  text : List Char
  place : Nat
  point : Nat
  bias : Nat
deriving DecidableEq, Repr

def insertAll (isFirst : Bool) (progress : Progress) (row : List Char) :
    Except DecodingRefusal (List Char) :=
  if row.isEmpty then .ok progress.text
  else
    match _outcome : readNumber progress.bias 0 1 0 row with
    | .error refusal => .error refusal
    | .ok (difference, rest) =>
        let count := progress.text.length + 1
        let place := progress.place + difference
        let point := progress.point + place / count
        if 0x10ffff < point then .error (.codeTooLarge point)
        else
          let here := place % count
          insertAll false
            { text := progress.text.take here ++ Char.ofNat point :: progress.text.drop here
              place := here + 1
              point := point
              bias := nextBias difference isFirst count } rest
termination_by row.length
decreasing_by exact length_readNumber_lt _outcome

def readAscii (bytes : List UInt8) : Except DecodingFailure (List Char) :=
  ((ByteReader.ofBytes asciiChar? .beyondAscii).read "ascii" () bytes).mapError .undecodable

/-- A text as it was written: what stands before the last hyphen, and the row. -/
def cutAtLast (bytes : List UInt8) : List UInt8 × List UInt8 :=
  let row := (bytes.reverse.takeWhile (· != 0x2d)).reverse
  (bytes.take (bytes.length - row.length - 1), row)

def read (bytes : List UInt8) : Except DecodingFailure (List Char) := do
  let (plain, row) := cutAtLast bytes
  let text ← readAscii plain
  let digits ← readAscii row
  (insertAll true ⟨text, 0, 0x80, 72⟩ (digits.map Char.toUpper)).mapError .refused

/-! ### Writing -/

def writeNumber (bias place number : Nat) : List Char :=
  let limit := threshold place bias
  if number < limit then [digitChar number]
  else
    digitChar (limit + (number - limit) % (36 - limit))
      :: writeNumber bias (place + 1) ((number - limit) / (36 - limit))
termination_by number
decreasing_by
  have positive := one_le_threshold place bias
  have bounded := threshold_le place bias
  have smaller := Nat.div_le_self (number - threshold place bias) (36 - threshold place bias)
  omega

/-- A row on the way: its digits, the difference since the last number, the bias, and
how many characters have been written. -/
structure Written where
  digits : List Char
  difference : Nat
  bias : Nat
  count : Nat
  isFirst : Bool
deriving DecidableEq, Repr

/-- A character of the text passed on the way to the next one to be written. -/
def passed (point : Nat) (written : Written) (character : Char) : Written :=
  if character.toNat < point then { written with difference := written.difference + 1 }
  else if character.toNat = point then
    { digits := written.digits ++ writeNumber written.bias 0 written.difference
      difference := 0
      bias := nextBias written.difference written.isFirst (written.count + 1)
      count := written.count + 1
      isFirst := false }
  else written

/-- The row for the code points of a list, which ascends, from a code point on. -/
def writeRow (text : List Char) (start : Nat) (written : Written) : List Nat → List Char
  | [] => written.digits
  | point :: rest =>
      let moved := { written with
        difference := written.difference + (point - start) * (written.count + 1) }
      let after := text.foldl (passed point) moved
      writeRow text (point + 1) { after with difference := after.difference + 1 } rest

def write (text : List Char) : List Char :=
  let plain := text.filter fun character => character.toNat < 0x80
  let others := ((text.filter fun character => 0x80 ≤ character.toNat).map Char.toNat).mergeSort
  let row := writeRow text 0x80 ⟨[], 0, 72, plain.length, true⟩ others.eraseDups
  if plain.isEmpty then row else plain ++ '-' :: row

/-! ### Small facts -/

end ProtectionLimits.Text.Punycode

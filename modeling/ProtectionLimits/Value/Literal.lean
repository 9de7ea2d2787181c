import ProtectionLimits.Decimal
import ProtectionLimits.Number.Shortest
import ProtectionLimits.Text.Quoted
import ProtectionLimits.Text.Split
import ProtectionLimits.Value

/-!
Contract: the written forms of values.

Owns the literal form, in which texts are quoted and containers bracketed, and
the display form, in which a text stands for itself. Inside a container every
item has its literal form. Owns also which values have no such form when someone asks
for it: no integer is written that has too many digits, an object may have no text, and a
container has none if one of its items has none. `literal` says what would be written of
any value; `written` and `displayed` say what is.
-/

set_option autoImplicit false

namespace ProtectionLimits

/-- What asking for a text gives: the text, or why there is none. -/
abbrev Written := Except Unwritable String

def Written.unless (reason : Option Unwritable) (text : String) : Written :=
  match reason with
  | some reason => .error reason
  | none => .ok text

namespace Value

/-- Bracketed items of a tuple: a single item keeps its comma. -/
def tupleLiteral : List String → String
  | [single] => "(" ++ single ++ ",)"
  | items => "(" ++ Text.joined ", " items ++ ")"

mutual

/-- The literal form of a value, however long. -/
def literal : Value → String
  | absent => "None"
  | bool truth => if truth then "True" else "False"
  | int integer => Decimal.integer integer
  | number quantity => quantity.written
  | text content => Text.quoted content
  | bytes content => Text.quotedBytes content
  | list items => "[" ++ Text.joined ", " (literals items) ++ "]"
  | tuple items => tupleLiteral (literals items)
  | mapping entries => "\x7b" ++ Text.joined ", " (entryLiterals entries) ++ "\x7d"
  | object _ _ written => written

def literals : List Value → List String
  | [] => []
  | item :: rest => literal item :: literals rest

/-- The literal forms of the entries of a mapping. -/
def entryLiterals : List (Value × Value) → List String
  | [] => []
  | (key, item) :: rest => (literal key ++ ": " ++ literal item) :: entryLiterals rest

end

/-- The display form of a value: a text is shown as it is, anything else by its literal. -/
def display : Value → String
  | text content => content
  | other => literal other

/-! ### Values without a text -/

/-- Why an integer with too many digits has no text. -/
def tooLong : Unwritable := ⟨"ValueError", Decimal.tooLongMessage⟩

mutual

/-- Why a value has no text, if it has none. The first part without a text decides. -/
def unwritable? : Value → Option Unwritable
  | int integer => if Decimal.isTooLong integer then some tooLong else none
  | object _ nature _ => nature.unwritable
  | list items => unwritableAmong? items
  | tuple items => unwritableAmong? items
  | mapping entries => unwritableWithin? entries
  | _ => none

def unwritableAmong? : List Value → Option Unwritable
  | [] => none
  | item :: rest => (unwritable? item).or (unwritableAmong? rest)

/-- Why the first key or item of a mapping without a text has none. -/
def unwritableWithin? : List (Value × Value) → Option Unwritable
  | [] => none
  | (key, item) :: rest => ((unwritable? key).or (unwritable? item)).or (unwritableWithin? rest)

end

def written (value : Value) : Written := Written.unless value.unwritable? value.literal

def displayed (value : Value) : Written := Written.unless value.unwritable? value.display

end Value

end ProtectionLimits

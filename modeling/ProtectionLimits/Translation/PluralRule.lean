import ProtectionLimits.Decimal
import ProtectionLimits.Text.Alphanumeric
import ProtectionLimits.Value

/-!
Contract: the rule for plural forms that a catalog states.

Owns the tokens of such a rule, its grammar, why a rule is refused, and the form that
an accepted rule gives for a count. A rule is an expression over one number with the
logical, relational and arithmetic operators and a choice between two branches. It is
written out and read again before it is computed, and then a negation reaches as far as
the operators that compare and calculate behind it. A rule may fail for a count: nothing
is divided by zero. Tokens are looked at one after the other, so what stands behind the
first fault is never seen.
-/

set_option autoImplicit false

namespace ProtectionLimits.Translation

/-- The tokens of a rule. The last one stands behind all others. -/
inductive PluralToken where
  | number (text : List Char)
  | count
  | mark (text : List Char)
  | invalid (text : List Char)
  | ending
deriving DecidableEq, Repr

def PluralToken.text : PluralToken → List Char
  | number text => text
  | count => ['n']
  | mark text => text
  | invalid text => text
  | ending => []

/-- Why a rule is refused. -/
inductive PluralFault where
  | tooLong
  | tooComplex
  | unbalanced
  | invalidToken (text : List Char)
  | unexpectedToken (text : List Char)
  | unexpectedEnd
  | misplacedNegation
  | conditionCut
deriving DecidableEq, Repr

namespace PluralRule

/-! ### Tokens -/

def isWordChar (character : Char) : Bool :=
  Text.isAlphanumeric character || character == '_'

def wordToken (word : List Char) : PluralToken :=
  if word == ['n'] then .count
  else if word.all Decimal.isDigit then .number word
  else .invalid word

def singleMarks : List Char := ['(', ')', '-', '*', '/', '%', '+', '?', ':', '<', '>', '!']

def doubleMarks : List (Char × Char) :=
  [('<', '='), ('>', '='), ('!', '='), ('=', '='), ('&', '&'), ('|', '|')]

def nextToken (first : Char) (rest : List Char) : PluralToken × List Char :=
  if isWordChar first then
    (wordToken (first :: rest.takeWhile isWordChar), rest.dropWhile isWordChar)
  else
    match rest with
    | second :: others =>
        if doubleMarks.contains (first, second) then (.mark [first, second], others)
        else if singleMarks.contains first then (.mark [first], rest)
        else (.invalid [first], rest)
    | [] => if singleMarks.contains first then (.mark [first], []) else (.invalid [first], [])

theorem length_nextToken (first : Char) (rest : List Char) :
    (nextToken first rest).2.length ≤ rest.length := by
  unfold nextToken
  split
  · exact (List.dropWhile_suffix isWordChar).length_le
  · split
    · split
      · simp
      · split <;> simp
    · split <;> simp

/-- The tokens of a rule; blanks and tabs only separate them. -/
def tokens : List Char → List PluralToken
  | [] => [.ending]
  | first :: rest =>
      if first == ' ' || first == '\t' then tokens rest
      else (nextToken first rest).1 :: tokens (nextToken first rest).2
termination_by text => text.length
decreasing_by
  · simp
  · have := length_nextToken first rest
    simp
    omega

/-! ### Grammar -/

/-- The operators between two expressions. -/
inductive Operator where
  | or
  | and
  | equal
  | unequal
  | less
  | greater
  | atMost
  | atLeast
  | plus
  | minus
  | times
  | quotient
  | remainder
deriving DecidableEq, Repr

def operator? : PluralToken → Option Operator
  | .mark ['|', '|'] => some .or
  | .mark ['&', '&'] => some .and
  | .mark ['=', '='] => some .equal
  | .mark ['!', '='] => some .unequal
  | .mark ['<'] => some .less
  | .mark ['>'] => some .greater
  | .mark ['<', '='] => some .atMost
  | .mark ['>', '='] => some .atLeast
  | .mark ['+'] => some .plus
  | .mark ['-'] => some .minus
  | .mark ['*'] => some .times
  | .mark ['/'] => some .quotient
  | .mark ['%'] => some .remainder
  | _ => none

def Operator.binding : Operator → Nat
  | or => 1
  | and => 2
  | equal => 3
  | unequal => 3
  | less => 4
  | greater => 4
  | atMost => 4
  | atLeast => 4
  | plus => 5
  | minus => 5
  | times => 6
  | quotient => 6
  | remainder => 6

/-- Operators that compare; of two in a row the first has to stand in
parentheses. -/
def compares (binding : Nat) : Bool := binding == 3 || binding == 4

/-- What a rule computes. -/
inductive Formula where
  | number (value : Nat)
  | count
  | negation (inner : Formula)
  | operation (operator : Operator) (left right : Formula)
  | choice (condition whenTrue whenFalse : Formula)
deriving DecidableEq, Repr

/-- How far an expression can be read again once it is written out with choices behind
their first branches. A negation stops the reading where it cannot stand. -/
inductive Extent where
  /-- All of it. -/
  | whole
  /-- A beginning that is an expression itself. -/
  | part
  /-- No beginning is an expression. -/
  | nothing
  /-- A choice within it stops inside of its condition. -/
  | condition
deriving DecidableEq, Repr

namespace Extent

def enclosed : Extent → Extent
  | whole => whole
  | condition => condition
  | _ => nothing

/-- The extent of an expression that goes on behind one that was read. -/
def continued : Extent → Extent
  | nothing => part
  | extent => extent

def before : Extent → Extent → Extent
  | whole, behind => behind.continued
  | first, _ => first

def asCondition : Extent → Extent
  | part => condition
  | extent => extent.continued

end Extent

/-- What matters of an expression: how deep its parentheses go, how many negations stand
at its beginning, what it computes behind them, and how far it can be read when written
out. -/
structure Shape where
  depth : Nat
  negations : Nat
  formula : Formula
  extent : Extent
deriving DecidableEq, Repr

namespace Shape

/-- A number, or the count that a rule is about. -/
def atom (formula : Formula) : Shape := ⟨0, 0, formula, .whole⟩

/-- What an expression computes together with its negations. -/
def whole (shape : Shape) : Formula := Nat.repeat .negation shape.negations shape.formula

def enclosed (shape : Shape) : Shape := ⟨shape.depth + 1, 0, shape.whole, shape.extent.enclosed⟩

/-- Two expressions joined by an operator. A negation binds less closely than an
operator that compares or calculates: it cannot stand behind one, and it is about all that
the operators in front of the next logical one give. -/
def joined (operator : Operator) (left right : Shape) : Shape :=
  let isLogical : Bool := operator.binding < 3
  { depth := max left.depth right.depth
    negations := if isLogical then 0 else left.negations
    formula := .operation operator (if isLogical then left.whole else left.formula) right.whole
    extent := left.extent.before
      (if !isLogical && right.negations != 0 then .nothing else right.extent) }

/-- A choice: the branch for a condition that holds is written first, then the
condition, and then the other branch. -/
def choice (whenTrue condition whenFalse : Shape) : Shape where
  depth := max whenTrue.depth (max condition.depth whenFalse.depth)
  negations := 0
  formula := .choice condition.whole whenTrue.whole whenFalse.whole
  extent := whenTrue.extent.before (condition.extent.asCondition.before whenFalse.extent)

end Shape

/-- What is read of a rule: an expression, the token behind it, and the rest. -/
structure Read where
  shape : Shape
  next : PluralToken
  rest : List PluralToken

/-- The fault of a token that stands where another was expected. -/
def unexpected (token : PluralToken) : PluralFault :=
  if token == .ending then .unexpectedEnd else .unexpectedToken token.text

def advance : List PluralToken → Except PluralFault (PluralToken × List PluralToken)
  | [] => .ok (.ending, [])
  | .invalid text :: _ => .error (.invalidToken text)
  | token :: rest => .ok (token, rest)

/-- The first token that is no negation, and how many there are with those before it. -/
def skipNegations (negations : Nat) :
    List PluralToken → Except PluralFault (Nat × PluralToken × List PluralToken)
  | [] => .ok (negations, .ending, [])
  | .invalid text :: _ => .error (.invalidToken text)
  | .mark ['!'] :: rest => skipNegations (negations + 1) rest
  | token :: rest => .ok (negations, token, rest)

/-- Expressions that stand in more others than these are refused while they are
read. -/
def maximalNesting : Nat := 988

mutual

/-- An expression whose operators bind at least as closely as the least binding;
without one a choice may follow. It stands in so many other expressions. -/
def expression (fuel nesting : Nat) (least : Option Nat) (tokens : List PluralToken) :
    Except PluralFault Read :=
  match fuel with
  | 0 => .error .tooComplex
  | fuel + 1 => do
      if maximalNesting ≤ nesting then throw .tooComplex
      let (negations, first, rest) ← skipNegations 0 tokens
      let (inner, rest) ← operand fuel nesting first rest
      let (next, rest) ← advance rest
      let left : Shape := { inner with negations := negations }
      let (read, last) ← operators fuel nesting least none ⟨left, next, rest⟩
      let read := if last == some 4 && least == some 4 then
        { read with shape := read.shape.enclosed } else read
      if read.next == .mark ['?'] && least.getD 0 == 0 then choice fuel nesting least read
      else pure read

/-- A number, the count, or an expression in parentheses. -/
def operand (fuel nesting : Nat) (first : PluralToken) (rest : List PluralToken) :
    Except PluralFault (Shape × List PluralToken) :=
  match fuel with
  | 0 => .error .tooComplex
  | fuel + 1 =>
      match first with
      | .count => .ok (.atom .count, rest)
      | .number text => .ok (.atom (.number (Decimal.valueOf text)), rest)
      | .mark ['('] => do
          let read ← expression fuel (nesting + 1) none rest
          if read.next == .mark [')'] then pure (read.shape.enclosed, read.rest)
          else .error .unbalanced
      | other => .error (unexpected other)

/-- The operators behind an expression with their right sides, and the binding
of the last one. -/
def operators (fuel nesting : Nat) (least last : Option Nat) (read : Read) :
    Except PluralFault (Read × Option Nat) :=
  match fuel with
  | 0 => .error .tooComplex
  | fuel + 1 =>
      match operator? read.next with
      | none => .ok (read, last)
      | some operator =>
          let binding := operator.binding
          if binding < least.getD 0 then .ok (read, last)
          else do
            let left :=
              if compares binding && last.any compares then read.shape.enclosed else read.shape
            let right ← expression fuel (nesting + 1) (some (binding + 1)) read.rest
            operators fuel nesting least (some binding)
              { right with shape := Shape.joined operator left right.shape }

def choice (fuel nesting : Nat) (least : Option Nat) (condition : Read) :
    Except PluralFault Read :=
  match fuel with
  | 0 => .error .tooComplex
  | fuel + 1 => do
      let whenTrue ← expression fuel (nesting + 1) (some 0) condition.rest
      if whenTrue.next == .mark [':'] then
        let whenFalse ← expression fuel (nesting + 1) none whenTrue.rest
        let written := Shape.choice whenTrue.shape condition.shape whenFalse.shape
        let shape := if least == some 0 then written.enclosed else written
        pure { whenFalse with shape := shape }
      else .error (unexpected whenTrue.next)

end

/-- Longer rules are refused unread. -/
def maximalLength : Nat := 1000

/-- Deeper parentheses are refused. -/
def maximalDepth : Nat := 20

def read (rule : List Char) : Except PluralFault Formula :=
  if maximalLength < rule.length then .error .tooLong
  else do
    let tokens := tokens rule
    let read ← expression (4 * tokens.length + 4) 0 none tokens
    if read.next != .ending then .error (unexpected read.next)
    else if maximalDepth < read.shape.depth then .error .tooComplex
    else
      match read.shape.extent with
      | .whole => pure read.shape.whole
      | .condition => .error .conditionCut
      | _ => .error .misplacedNegation

/-! ### Forms -/

def truth (holds : Bool) : Int := if holds then 1 else 0

/-- Why nothing is divided by zero. -/
def divisionByZero (message : String) : Unwritable := ⟨"ZeroDivisionError", message⟩

/-- What an operator gives that needs both its sides. Quotients are rounded down. -/
def Operator.apply (operator : Operator) (left right : Int) : Except Unwritable Int :=
  match operator with
  | or => .ok (if left ≠ 0 then left else right)
  | and => .ok (if left ≠ 0 then right else left)
  | equal => .ok (truth (left = right))
  | unequal => .ok (truth (left ≠ right))
  | less => .ok (truth (left < right))
  | greater => .ok (truth (right < left))
  | atMost => .ok (truth (left ≤ right))
  | atLeast => .ok (truth (right ≤ left))
  | plus => .ok (left + right)
  | minus => .ok (left - right)
  | times => .ok (left * right)
  | quotient =>
      if right = 0 then .error (divisionByZero "integer division or modulo by zero")
      else .ok (left.fdiv right)
  | remainder =>
      if right = 0 then .error (divisionByZero "integer modulo by zero")
      else .ok (left.fmod right)

/-- The form that a rule gives for a count. The right side of a logical operator and the
branches of a choice are only looked at where they count. -/
def Formula.form (count : Int) : Formula → Except Unwritable Int
  | number value => .ok value
  | .count => .ok count
  | negation inner => (inner.form count).map fun value => truth (value = 0)
  | operation .or left right => do
      let value ← left.form count
      if value ≠ 0 then pure value else right.form count
  | operation .and left right => do
      let value ← left.form count
      if value ≠ 0 then right.form count else pure value
  | operation operator left right => do
      let value ← left.form count
      operator.apply value (← right.form count)
  | choice condition whenTrue whenFalse => do
      if (← condition.form count) ≠ 0 then whenTrue.form count else whenFalse.form count

/-- The rule of a catalog that states none: one form for the count one, another for all
others. -/
def standard : Formula := .operation .unequal .count (.number 1)

end PluralRule

end ProtectionLimits.Translation

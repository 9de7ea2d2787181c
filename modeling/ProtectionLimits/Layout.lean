import ProtectionLimits.Text.Digit

/-!
Contract: layouts, the notation for how something is set in its place in a
message.

Owns the parts of a layout, the notation in which they are written, and every
reason for which a layout is refused. The parts stand in a fixed order and all of
them may be left out: the fill character and the alignment, the sign, the two
marks for zeros and for bases, the width, the separator of digit groups, the
precision, and the style. What a layout means for a text, an integer or a number
is said in the modules under `Layout`.
-/

set_option autoImplicit false

namespace ProtectionLimits

/-- Where something stands in its room. Numerals can also be parted, with the room
between the sign and the digits. -/
inductive Alignment where
  | left
  | right
  | center
  | parted
deriving DecidableEq, Repr

/-- Which sign a numeral has that is not negative. -/
inductive SignRule where
  | negativeOnly
  | always
  | blank
deriving DecidableEq, Repr

/-- What separates the groups of digits. -/
inductive Grouping where
  | comma
  | underscore
deriving DecidableEq, Repr

/-- A layout. What has been left out is absent, apart from the fill character and
the alignment, which then are those of the kind that is laid out. -/
structure Layout where
  fill : Char
  alignment : Alignment
  sign : Option SignRule
  withoutNegativeZero : Bool
  alternate : Bool
  width : Option Nat
  grouping : Option Grouping
  precision : Option Nat
  style : Option Char
deriving DecidableEq, Repr

namespace Layout

/-- Why something cannot be laid out. -/
inductive Failure where
  | countTooLarge
  | precisionMissing
  | precisionTooLarge
  | precisionRefused
  | twoGroupings
  | groupingRefused (grouping : Grouping) (style : Char)
  | malformed (layout kind : String)
  | styleUnknown (style : Char) (kind : String)
  | signRefused
  | blankRefused
  | zeroMarkRefused (what : String)
  | alternateRefused
  | partingRefused
  | signOfCharacter
  | alternateOfCharacter
  | characterOutside
  | characterTooLarge
  | numberTooLarge
  | numeralTooLong
  | tooWide
deriving DecidableEq, Repr

/-! ### The notation -/

def alignment? : Char → Option Alignment
  | '<' => some .left
  | '>' => some .right
  | '^' => some .center
  | '=' => some .parted
  | _ => none

def signRule? : Char → Option SignRule
  | '-' => some .negativeOnly
  | '+' => some .always
  | ' ' => some .blank
  | _ => none

/-- The fill character and the alignment at the beginning of a layout, if they are
there, and the rest. -/
def splitAlignment : List Char → Option Char × Option Alignment × List Char
  | first :: second :: rest =>
      match alignment? second, alignment? first with
      | some alignment, _ => (some first, some alignment, rest)
      | none, some alignment => (none, some alignment, second :: rest)
      | none, none => (none, none, first :: second :: rest)
  | [only] => match alignment? only with
      | some alignment => (none, some alignment, [])
      | none => (none, none, [only])
  | [] => (none, none, [])

def splitSign : List Char → Option SignRule × List Char
  | first :: rest => match signRule? first with
      | some rule => (some rule, rest)
      | none => (none, first :: rest)
  | [] => (none, [])

def splitMark (mark : Char) : List Char → Bool × List Char
  | first :: rest => if first = mark then (true, rest) else (false, first :: rest)
  | [] => (false, [])

def largestCount : Nat := 9223372036854775807

/-- The count at the beginning, if digits are there, and the rest. The digits may
be those of any script. -/
def splitCount (characters : List Char) : Except Failure (Option Nat × List Char) :=
  let isDigit (character : Char) : Bool := (Text.digitValue? character).isSome
  let digits := characters.takeWhile isDigit
  if digits.isEmpty then .ok (none, characters)
  else if largestCount < Text.digitsFrom 0 digits then .error .countTooLarge
  else .ok (some (Text.digitsFrom 0 digits), characters.dropWhile isDigit)

/-- The separator of digit groups at the beginning, if it is there, and the rest.
Two different separators are refused. -/
def splitGrouping : List Char → Except Failure (Option Grouping × List Char)
  | ',' :: '_' :: _ => .error .twoGroupings
  | '_' :: ',' :: _ => .error .twoGroupings
  | ',' :: rest => .ok (some .comma, rest)
  | '_' :: rest => .ok (some .underscore, rest)
  | rest => .ok (none, rest)

/-- The precision at the beginning, if a point is there, and the rest. -/
def splitPrecision : List Char → Except Failure (Option Nat × List Char)
  | '.' :: rest => do
      match ← splitCount rest with
      | (none, _) => .error .precisionMissing
      | counted => pure counted
  | rest => .ok (none, rest)

/-- Whether digits can be grouped in a style: in decimal notation with any
separator, and in the other bases with underscores. -/
def canGroup (grouping : Grouping) : Option Char → Bool
  | none => true
  | some style =>
      ['d', 'e', 'f', 'g', 'E', 'G', '%', 'F'].contains style ||
        (grouping == .underscore && ['b', 'o', 'x', 'X'].contains style)

/-- What a kind takes for granted where a layout says nothing. -/
structure Standard where
  kind : String
  alignment : Alignment
  style : Option Char

/-- The layout without its style, and what is left of the notation. A zero before
the width fills with zeros; if nothing else is said, it parts what is set to the
right. -/
def readParts (standard : Standard) (characters : List Char) :
    Except Failure (Layout × List Char) := do
  let (fill, alignment, rest) := splitAlignment characters
  let (sign, rest) := splitSign rest
  let (withoutNegativeZero, rest) := splitMark 'z' rest
  let (alternate, rest) := splitMark '#' rest
  let (zeros, rest) := if fill.isNone then splitMark '0' rest else (false, rest)
  let (width, rest) ← splitCount rest
  let (grouping, rest) ← splitGrouping rest
  let (precision, rest) ← splitPrecision rest
  let standing := if zeros && standard.alignment == .right then .parted else standard.alignment
  pure
    ({ fill := fill.getD (if zeros then '0' else ' ')
       alignment := alignment.getD standing
       sign := sign
       withoutNegativeZero := withoutNegativeZero
       alternate := alternate
       width := width
       grouping := grouping
       precision := precision
       style := standard.style }, rest)

/-- The layout that a notation stands for. At most one character is left for the
style. -/
def read (standard : Standard) (characters : List Char) : Except Failure Layout := do
  let (layout, rest) ← readParts standard characters
  let layout ← match rest with
    | [] => pure layout
    | [style] => pure { layout with style := some style }
    | _ => .error (.malformed (String.ofList characters) standard.kind)
  match layout.grouping with
  | some grouping =>
      if canGroup grouping layout.style then pure layout
      else .error (.groupingRefused grouping (layout.style.getD ' '))
  | none => pure layout

/-! ### Setting -/

/-- Nothing is set in a room that is wider. -/
def widest : Nat := 1000000000

/-- What is laid out, between what fills its room: how much is filled before it and
behind it. -/
def shares (alignment : Alignment) (room : Nat) : Nat × Nat :=
  match alignment with
  | .left => (0, room)
  | .right => (room, 0)
  | .parted => (room, 0)
  | .center => (room / 2, room - room / 2)

/-- Text set in a column that is wide enough for it; one that is not stays as it is. -/
def fillUp (fill : Char) (alignment : Alignment) (width : Nat) (text : List Char) : List Char :=
  let (before, behind) := shares alignment (width - text.length)
  List.replicate before fill ++ text ++ List.replicate behind fill

/-! ### Texts -/

def textStandard : Standard := ⟨"str", .left, some 's'⟩

/-- What is refused for a text: everything that only numerals have. -/
def refusedForText? (layout : Layout) : Option Failure :=
  if layout.style ≠ some 's' then
    some (.styleUnknown (layout.style.getD 's') textStandard.kind)
  else
    match layout.sign with
    | some .blank => some .blankRefused
    | some _ => some .signRefused
    | none =>
        if layout.withoutNegativeZero then some (.zeroMarkRefused "string format specifier")
        else if layout.alternate then some .alternateRefused
        else if layout.alignment = .parted then some .partingRefused
        else none

/-- A text in a layout: it is cut to the precision and filled up to the width. -/
def setText (layout : Layout) (text : String) : Except Failure String :=
  match layout.refusedForText? with
  | some failure => .error failure
  | none =>
      let width := layout.width.getD 0
      if widest < width then .error .tooWide
      else
        let kept := (layout.precision.map text.toList.take).getD text.toList
        .ok (String.ofList (fillUp layout.fill layout.alignment width kept))

/-- A text in the layout of a notation; nothing stands for the text as it is. -/
def text (spelling : List Char) (content : String) : Except Failure String :=
  if spelling.isEmpty then .ok content
  else (read textStandard spelling).bind fun layout => layout.setText content

end Layout

end ProtectionLimits

/-!
Contract: sets of characters with codes.

Owns the three ways in which a set is on record: stretches of characters that
follow one another and whose codes do so too, blocks of codes that stand for code
points in a row, and runs of code points for codes counted from zero. A code that
is in none of them stands for no character.
-/

set_option autoImplicit false

namespace ProtectionLimits.Text

/-! ### Stretches -/

/-- Characters in a row, and the code of the first. -/
structure Stretch where
  first : Nat
  characters : String
deriving DecidableEq, Repr

/-- The character of a code in a stretch. No stretch leaves the row of its first
code, which is why the text is looked into only from close by. -/
def Stretch.char? (stretch : Stretch) (code : Nat) : Option Char :=
  if stretch.first ≤ code && code < stretch.first + 0x100 then
    stretch.characters.toList[code - stretch.first]?
  else none

abbrev Charset := List Stretch

def Charset.char? (charset : Charset) (code : Nat) : Option Char :=
  charset.findSome? fun stretch => stretch.char? code

/-! ### Blocks -/

/-- A block of codes in a row: its first code, the code point of that code and its
length. -/
structure CodeBlock where
  code : Nat
  point : Nat
  length : Nat
deriving DecidableEq, Repr

def blockChar? (code : Nat) (blocks : List CodeBlock) : Option Char :=
  (blocks.find? fun block => block.code ≤ code && code < block.code + block.length).map
    fun block => Char.ofNat (block.point + (code - block.code))

/-! ### Runs -/

/-- A run of codes: its length and the code point of its first code. -/
structure CodeRun where
  length : Nat
  first : Nat
deriving DecidableEq, Repr

/-- A run that begins here stands for no characters: no character has this code
point. -/
def undefinedPoint : Nat := 0xfffe

/-- The code point of a code, where the codes of the runs are counted from zero. -/
def codePoint? (code : Nat) : List CodeRun → Option Nat
  | [] => none
  | run :: rest =>
      if code < run.length then
        if run.first = undefinedPoint then none else some (run.first + code)
      else codePoint? (code - run.length) rest

/-! ### Small facts -/

end ProtectionLimits.Text

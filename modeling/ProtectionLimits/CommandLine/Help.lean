import ProtectionLimits.CommandLine.Arguments
import ProtectionLimits.Text.Blank
import ProtectionLimits.Text.Column
import ProtectionLimits.Text.Digit

/-!
Contract: what the program says about itself.

Owns the usage lines, the help text, and its layout for the width of a screen.
Texts are broken between words, each line taking as many words as it has room
for. The help of a switch stands beside the switch if there is room, and below it
otherwise. However narrow the screen is, texts keep a least width.
-/

set_option autoImplicit false

namespace ProtectionLimits.CommandLine

def programName : String := "xmllimits-show"

/-- How the program is called. -/
def usage : String :=
  Text.lines
    ["usage: " ++ programName ++ " [OPTION]...",
      "Try '" ++ programName ++ " --help' for more information."]

/-! ### Width of the screen -/

/-- The variable that holds the width of the screen. -/
def columnsVariable : String := "COLUMNS"

/-- The width of a screen that is not known. -/
def standardColumns : Nat := 80

/-- Whether some characters are digits, with single underscores between them. -/
def isDigitRun : List Char → Bool
  | [] => false
  | [last] => (Text.digitValue? last).isSome
  | first :: '_' :: rest => (Text.digitValue? first).isSome && isDigitRun rest
  | first :: rest => (Text.digitValue? first).isSome && isDigitRun rest

/-- The width that a text states: a number above zero, with blanks around it. -/
def statedColumns? (text : String) : Option Nat :=
  let digits := match Text.trim text.toList with
    | '+' :: rest => rest
    | other => other
  if isDigitRun digits then
    some (Text.digitsFrom 0 (digits.filter (· != '_')))
  else none

/-- The width of the screen, as the environment has it. -/
def columns (bindings : List (String × String)) : Nat :=
  match (bindings.lookup columnsVariable).bind statedColumns? with
  | some stated => if stated = 0 then standardColumns else stated
  | none => standardColumns

/-! ### Filled lines -/

/-- Words set in lines. The line that has been begun takes a word if it has room
for it and a blank. -/
def fillFrom (width : Nat) (line : String) : List String → List String
  | [] => [line]
  | word :: rest =>
      if line.length + 1 + word.length ≤ width then
        fillFrom width (line ++ " " ++ word) rest
      else line :: fillFrom width word rest

def filled (width : Nat) : List String → List String
  | [] => []
  | word :: rest => fillFrom width word rest

/-! ### Help -/

def leastWidth : Nat := 11

def purpose : List String := ["show", "the", "effective", "protection", "limits."]

def Switch.all : List Switch := [.help, .verbosity, .secure]

def Switch.description : Switch → List String
  | help => ["show", "this", "help", "message", "and", "exit"]
  | verbosity => ["increase", "output", "verbosity."]
  | secure => ["initialize", "limits", "with", "secure", "processing", "values."]

/-- A switch in the help text: all its spellings, behind a margin. -/
def Switch.heading (switch : Switch) : String :=
  "  " ++ Text.joined ", " ((Spelling.all.filter fun spelling => spelling.switch == switch).map
    Spelling.name)

/-- Where the texts of a help page stand. -/
structure Page where
  textWidth : Nat
  helpColumn : Nat
  helpWidth : Nat
deriving DecidableEq, Repr

/-- The page for a screen. Two columns stay free on the right. -/
def Page.ofColumns (columns : Nat) : Page :=
  let width := columns - 2
  let headings := (Switch.all.map fun switch => switch.heading.length + 2).foldl max 0
  let helpColumn := min headings (min 24 (max (width - 20) 4))
  { textWidth := max width leastWidth
    helpColumn := helpColumn
    helpWidth := max (width - helpColumn) leastWidth }

def blanks (width : Nat) : String := Text.padRight width ""

def Page.switchLines (page : Page) (switch : Switch) : List String :=
  let texts := filled page.helpWidth switch.description
  let indented := texts.map fun text => blanks page.helpColumn ++ text
  if switch.heading.length + 2 ≤ page.helpColumn then
    match texts with
    | first :: _ => (Text.padRight page.helpColumn switch.heading ++ first) :: indented.drop 1
    | [] => [switch.heading]
  else switch.heading :: indented

def helpText (columns : Nat) : String :=
  let page := Page.ofColumns columns
  usage ++ Text.lines ("" :: filled page.textWidth purpose ++ ["", "options:"] ++
    Switch.all.flatMap page.switchLines)

/-! ### Small facts -/

end ProtectionLimits.CommandLine

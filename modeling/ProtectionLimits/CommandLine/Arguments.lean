import ProtectionLimits.Text.Quoted
import ProtectionLimits.Text.Split

/-!
Contract: what the arguments of the command line ask for.

Owns the switches, the forms in which an argument can name one, and the refusal
of arguments. A long name may be cut short as long as it fits one switch only.
Single letters can stand together behind one hyphen. No switch takes a value, so
whatever is attached to one is refused. Behind a bare pair of hyphens nothing is
a switch. All arguments are first interpreted and then followed from left to
right, so a name that fits several switches is refused before help is given, and
an argument that is no switch is refused last.
-/

set_option autoImplicit false

namespace ProtectionLimits.CommandLine

inductive Switch where
  | help
  | verbosity
  | secure
deriving DecidableEq, Repr

/-- A spelling of a switch. Short ones have a single hyphen. -/
structure Spelling where
  name : String
  switch : Switch
  isShort : Bool
deriving DecidableEq, Repr

namespace Spelling

def all : List Spelling :=
  [⟨"-h", .help, true⟩, ⟨"--help", .help, false⟩, ⟨"-v", .verbosity, true⟩,
    ⟨"--secure", .secure, false⟩]

def spelled? (text : List Char) : Option Spelling :=
  all.find? fun spelling => spelling.name.toList == text

def beginningWith (text : List Char) : List Spelling :=
  all.filter fun spelling => text.isPrefixOf spelling.name.toList

end Spelling

def Switch.label (switch : Switch) : String :=
  Text.joined "/" ((Spelling.all.filter fun spelling => spelling.switch == switch).map
    Spelling.name)

/-- Why arguments are refused. -/
inductive Refusal where
  /-- The beginning of a name fits several switches. -/
  | ambiguous (argument : String) (candidates : List String)
  /-- Something is attached to a switch. -/
  | attached (switch : Switch) (text : String)
  /-- Some arguments are no switches. -/
  | unrecognized (arguments : List String)
deriving DecidableEq, Repr

def Refusal.message : Refusal → String
  | ambiguous argument candidates =>
      "ambiguous option: " ++ argument ++ " could match " ++ Text.joined ", " candidates
  | attached switch text =>
      "argument " ++ switch.label ++ ": ignored explicit argument " ++ Text.quoted text
  | unrecognized arguments => "unrecognized arguments: " ++ Text.joined " " arguments

/-- An argument as it is interpreted: a spelling with what is attached to it, or
no switch at all. -/
inductive Argument where
  | switch (spelling : Spelling) (attached : Option (List Char))
  | other (text : List Char)
deriving DecidableEq, Repr

/-- A long name cut short. -/
def abbreviated (text stem : List Char) (attached : Option (List Char)) :
    Except Refusal Argument :=
  match Spelling.beginningWith stem with
  | [] => .ok (.other text)
  | [spelling] => .ok (.switch spelling attached)
  | candidates =>
      .error (.ambiguous (String.ofList text) (candidates.map Spelling.name))

/-- An argument that is no exact spelling, not even before an equals sign. -/
def interpretInexact (text stem : List Char) (attached : Option (List Char)) :
    Except Refusal Argument :=
  match text with
  | '-' :: '-' :: _ => abbreviated text stem attached
  | '-' :: letter :: rest =>
      match Spelling.spelled? ['-', letter] with
      | some spelling => .ok (.switch spelling (some rest))
      | none => .ok (.other text)
  | _ => .ok (.other text)

def interpret (text : List Char) : Except Refusal Argument :=
  let (stem, attached) := Text.splitAt '=' text
  match Spelling.spelled? text with
  | some spelling => .ok (.switch spelling none)
  | none =>
      match attached.bind fun _ => Spelling.spelled? stem with
      | some spelling => .ok (.switch spelling attached)
      | none => interpretInexact text stem attached

def separator : List Char := ['-', '-']

def interpretAll : List (List Char) → Except Refusal (List Argument)
  | [] => .ok []
  | text :: rest =>
      if text = separator then .ok ((text :: rest).map Argument.other)
      else do
        let argument ← interpret text
        let others ← interpretAll rest
        pure (argument :: others)

def cluster (switch : Switch) : List Char → Except Refusal (List Switch)
  | [] => .ok [switch]
  | letter :: rest =>
      match Spelling.spelled? ['-', letter] with
      | some spelling => (cluster spelling.switch rest).map (switch :: ·)
      | none => .error (.attached switch (String.ofList (letter :: rest)))

/-- The switches that a spelling with something attached stands for. -/
def switchesOf (spelling : Spelling) : Option (List Char) → Except Refusal (List Switch)
  | none => .ok [spelling.switch]
  | some text =>
      if spelling.isShort && !text.isEmpty then cluster spelling.switch text
      else .error (.attached spelling.switch (String.ofList text))

/-- How a listing is asked for. -/
structure Listing where
  verbosity : Nat
  secure : Bool
deriving DecidableEq, Repr

/-- What the arguments ask for. -/
inductive Request where
  | help
  | listing (listing : Listing)
deriving DecidableEq, Repr

def Listing.apply (listing : Listing) : Switch → Listing
  | .help => listing
  | .verbosity => { listing with verbosity := listing.verbosity + 1 }
  | .secure => { listing with secure := true }

/-- The arguments followed from left to right. What was no switch is kept. -/
def follow (listing : Listing) (others : List String) :
    List Argument → Except Refusal Request
  | [] => if others.isEmpty then .ok (.listing listing) else .error (.unrecognized others)
  | .other text :: rest => follow listing (others ++ [String.ofList text]) rest
  | .switch spelling attached :: rest =>
      match switchesOf spelling attached with
      | .error refusal => .error refusal
      | .ok switches =>
          if switches.contains .help then .ok .help
          else follow (switches.foldl Listing.apply listing) others rest

/-- What the arguments ask for, or why they are refused. -/
def request (arguments : List String) : Except Refusal Request :=
  (interpretAll (arguments.map String.toList)).bind fun interpreted =>
    follow ⟨0, false⟩ [] interpreted

/-! ### Small facts -/

end ProtectionLimits.CommandLine

import ProtectionLimits.Exhibit.Container
import ProtectionLimits.Fault.Report
import ProtectionLimits.Kept
import ProtectionLimits.Warnings

/-!
Contract: trackers whose parts a caller has reached.

Owns an opened tracker, which keeps its parts under names and whatever a caller has put
there, and all that trackers do, for trackers of either form. As long as an opened
tracker has its own keys it does what any tracker does with them; in place of other
keys there may be anything, and a tracker does with it what it lends itself to. Nothing is
recorded or taken back but within the scope of the tracker's lock.
-/

set_option autoImplicit false

namespace ProtectionLimits.Tracker

/-- A tracker whose parts a caller has reached, and its own keys as long as it keeps
them. -/
structure Opened where
  parts : Kept Exhibit
  own : Option Tracker

def keysPart : String := "_keys"

def lockPart : String := "_lock"

/-- The parts of a tracker within a caller's reach. -/
def opened (tracker : Tracker) : Opened := ⟨Kept.ofNames tracker.parts, some tracker⟩

namespace Opened

def part (tracker : Opened) (name : String) : Except Fault Exhibit :=
  match tracker.parts.under? name with
  | some found => .ok found
  | none => .error (Kept.missing className name)

/-- Goes on unless a part hides the call of a name. -/
def reach (tracker : Opened) (name : String) : Except Fault Unit :=
  match tracker.parts.under? name with
  | some screen => .error (.notCallable screen.sort)
  | none => .ok ()

/-- Goes on within the scope of the lock. A value has no scope. -/
def enterScope (tracker : Opened) : Except Fault Unit := do
  match ← tracker.part lockPart with
  | .value content => .error (.withoutScope content.kind)
  | _ => pure ()

def withOwn (tracker : Opened) (own : Tracker) : Opened :=
  { parts := tracker.parts.enter keysPart (.setOf "set" (own.keyValues.map .value))
    own := some own }

def size (tracker : Opened) : Except Fault Nat :=
  match tracker.own with
  | some own => .ok own.keys.length
  | none => do (← tracker.part keysPart).size

def contains (tracker : Opened) (key : Value) : Except Fault Bool :=
  match tracker.own with
  | some own => own.contains key
  | none => do (← tracker.part keysPart).has key

/-- Records a key unless it is there, and says whether it was new. -/
def addIfAbsent (tracker : Opened) (parser property : Value) : Except Fault (Bool × Opened) := do
  tracker.reach "add_if_absent"
  tracker.enterScope
  match tracker.own with
  | some own =>
      let (isNew, added) ← own.addIfAbsent parser property
      pure (isNew, tracker.withOwn added)
  | none =>
      let keys ← tracker.part keysPart
      if ← keys.has (.tuple [parser, property]) then pure (false, tracker)
      else .error (.attributeMissing keys.sort "add")

/-- Takes a record back, if there is one. -/
def discard (tracker : Opened) (parser property : Value) : Except Fault Opened := do
  tracker.reach "discard"
  tracker.enterScope
  match tracker.own with
  | some own => (own.discard parser property).map tracker.withOwn
  | none => .error (.attributeMissing (← tracker.part keysPart).sort "discard")

/-- Takes all records back. Lists and mappings can be emptied too. -/
def clear (tracker : Opened) : Except Fault Opened := do
  tracker.reach "clear"
  tracker.enterScope
  match tracker.own with
  | some _ => pure (tracker.withOwn .empty)
  | none =>
      let emptied (content : Value) : Opened :=
        { tracker with parts := tracker.parts.enter keysPart (.value content) }
      match (← tracker.part keysPart).sort with
      | .list => pure (emptied (.list []))
      | .mapping => pure (emptied (.mapping []))
      | other => .error (.attributeMissing other "clear")

/-- An opened tracker as text: its keys in order. -/
def literal (tracker : Opened) : Except Fault String :=
  match tracker.own with
  | some own => own.literal
  | none => do
      let members ← (← tracker.part keysPart).members
      orderedLiteral (members.filterMap Exhibit.plain?)

end Opened

/-- A tracker of either form. -/
inductive Form where
  | sound (tracker : Tracker)
  | opened (tracker : Opened)

namespace Form

def size : Form → Except Fault Nat
  | sound tracker => .ok tracker.keys.length
  | opened tracker => tracker.size

def contains : Form → Value → Except Fault Bool
  | sound tracker => tracker.contains
  | opened tracker => tracker.contains

/-- Records a key unless it is there, and says whether it was new. -/
def addIfAbsent (form : Form) (parser property : Value) : Except Fault (Bool × Form) :=
  match form with
  | sound tracker =>
      (tracker.addIfAbsent parser property).map fun (isNew, added) => (isNew, sound added)
  | opened tracker =>
      (tracker.addIfAbsent parser property).map fun (isNew, added) => (isNew, opened added)

/-- Takes a record back, if there is one. -/
def discard (form : Form) (parser property : Value) : Except Fault Form :=
  match form with
  | sound tracker => (tracker.discard parser property).map sound
  | opened tracker => (tracker.discard parser property).map opened

/-- Takes all records back. -/
def clear : Form → Except Fault Form
  | sound _ => .ok (sound .empty)
  | opened tracker => tracker.clear.map opened

/-- A tracker as text: its keys in order. -/
def literal : Form → Except Fault String
  | sound tracker => tracker.literal
  | opened tracker => tracker.literal

/-- A tracker as messages show it. -/
def exhibit (form : Form) : Exhibit :=
  .keeping className (form.literal.mapError Fault.unwritten) (match form with
    | sound tracker => Kept.ofNames tracker.parts
    | opened tracker => tracker.parts)

/-- Opening a tracker does not change how it is shown. -/
theorem exhibit_opened (tracker : Tracker) :
    (opened tracker.opened).exhibit = (sound tracker).exhibit := rfl

/-- The parts of a tracker within a caller's reach. -/
def reached : Form → Opened
  | sound tracker => tracker.opened
  | opened tracker => tracker

/-- What becomes of the keys of a tracker when a part is given or taken. -/
def ownAfter (tracker : Opened) (name : String) : Option Tracker :=
  if name = Kept.whole ∨ name = keysPart then none else tracker.own

def give (form : Form) (name : String) (value : Value) : Except Fault Form :=
  (form.reached.parts.give className .value name value).map fun parts =>
    opened ⟨parts, ownAfter form.reached name⟩

def take (form : Form) (name : String) : Except Fault Form :=
  (form.reached.parts.take className name).map fun parts =>
    opened ⟨parts, ownAfter form.reached name⟩

end Form

/-- What printing leaves behind of a tracker of either form: the tracker, what the stream
has stored, and whether the warning was printed. -/
structure Form.Printed where
  tracker : Form
  stored : String
  result : Except Fault Bool

/-- Prints a warning unless it counts as printed. After an ordinary failure the record is
taken back, and what keeps it from being taken back is what fails then. -/
def Form.print (form : Form) (stream : Stream) (parser property : Value)
    (complaint : Complaint) : Form.Printed :=
  match form with
  | sound tracker =>
      let printed := Warnings.print tracker stream parser property complaint
      ⟨sound printed.tracker, printed.stored, printed.result⟩
  | opened tracker =>
      match tracker.addIfAbsent parser property with
      | .error fault => ⟨form, "", .error fault⟩
      | .ok (false, _) => ⟨form, "", .ok false⟩
      | .ok (true, recorded) =>
          match Warnings.writeLine stream parser complaint with
          | (stored, .ok ()) => ⟨opened recorded, stored, .ok true⟩
          | (stored, .error fault) =>
              if fault.errorClass.isOrdinary then
                match recorded.discard parser property with
                | .ok left => ⟨opened left, stored, .error fault⟩
                | .error other => ⟨opened recorded, stored, .error other⟩
              else ⟨opened recorded, stored, .error fault⟩

end ProtectionLimits.Tracker

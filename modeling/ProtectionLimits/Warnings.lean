import ProtectionLimits.CallerError.Display
import ProtectionLimits.Value.Order

/-!
Contract: warnings that are printed once.

Owns the tracker of printed warnings, what is printed, and what becomes of the
tracker when printing fails. A warning is known by the parser and the property
it is about. It is recorded before it is printed; an ordinary failure of
printing takes the record back, so a later call can try again, and a request to
stop leaves it. What a stream has stored before it failed stays stored.
-/

set_option autoImplicit false

namespace ProtectionLimits

/-- The warnings that count as printed, by parser and property. -/
structure Tracker where
  keys : List (Value × Value)

namespace Tracker

def empty : Tracker := ⟨[]⟩

def sameKey (left right : Value × Value) : Bool :=
  left.1.equals right.1 && left.2.equals right.2

def keyOf (parser property : Value) : Except Fault (Value × Value) :=
  match (Value.tuple [parser, property]).unkeyable? with
  | some kind => .error (.unkeyable kind)
  | none => .ok (parser, property)

def holds (tracker : Tracker) (key : Value × Value) : Bool :=
  tracker.keys.any (sameKey key)

def record (tracker : Tracker) (key : Value × Value) : Tracker := ⟨tracker.keys ++ [key]⟩

def withdraw (tracker : Tracker) : Tracker := ⟨tracker.keys.dropLast⟩

def forget (tracker : Tracker) (key : Value × Value) : Tracker :=
  ⟨tracker.keys.filter fun other => !sameKey key other⟩

/-- Records a key unless it is recorded, and says whether it was new. -/
def addIfAbsent (tracker : Tracker) (parser property : Value) :
    Except Fault (Bool × Tracker) := do
  let key ← keyOf parser property
  pure (if tracker.holds key then (false, tracker) else (true, tracker.record key))

/-- Takes a record back, if there is one. -/
def discard (tracker : Tracker) (parser property : Value) : Except Fault Tracker :=
  (keyOf parser property).map tracker.forget

def contains (tracker : Tracker) (key : Value) : Except Fault Bool :=
  match key.unkeyable? with
  | some kind => .error (.unkeyable kind)
  | none => .ok (tracker.keys.any fun other => key.equals (.tuple [other.1, other.2]))

/-- Taking back the record of a key restores the tracker. -/
@[simp] theorem withdraw_record (tracker : Tracker) (key : Value × Value) :
    (tracker.record key).withdraw = tracker := by
  simp [record, withdraw]

def keyValues (tracker : Tracker) : List Value :=
  tracker.keys.map fun key => .tuple [key.1, key.2]

def className : String := "PrintedWarnings"

def orderedLiteral (keys : List Value) : Except Fault String :=
  (Value.sorted keys).bind fun ordered =>
    ((Value.list ordered).written.map fun text => className ++ "(" ++ text ++ ")").mapError
      .unwritable

def literal (tracker : Tracker) : Except Fault String := orderedLiteral tracker.keyValues

/-- What a tracker keeps as messages show it. -/
def parts (tracker : Tracker) : List (String × Exhibit) :=
  [("_keys", .setOf "set" (tracker.keyValues.map .value)),
    ("_lock", .thing "_thread.lock" (.ok "<unlocked _thread.lock object>") [] none)]

end Tracker

/-- What a warning is about: any value, an error of a known class, or any other error, known
by what asking for its text gives. -/
inductive Complaint where
  | value (content : Value)
  | error (raised : CallerError)
  | other (shown : Except Fault String)

def Complaint.display : Complaint → Except Fault String
  | value content => content.displayed.mapError .unwritable
  | error raised => raised.display
  | other shown => shown

/-- How a stream takes a text that is written to it: what it has stored of the text, and how
writing ended. Where writing has not failed, all of the text is stored. -/
structure Stream where
  write : String → String × Except Fault Unit
  whole : ∀ text, (write text).2 = .ok () → (write text).1 = text

namespace Stream

def working : Stream where
  write text := (text, .ok ())
  whole _ _ := rfl

/-- The stream on which writing fails after some of a text has been stored. -/
def failing (stored : String → String) (fault : Fault) : Stream where
  write text := (stored text, .error fault)
  whole _ written := by cases written

def closed : Stream := failing (fun _ => "") .streamClosed

def full : Stream := failing (fun _ => "") .streamFull

/-- A text is stored before there turns out to be no room for it. -/
def fullAfterStoring : Stream := failing id .streamFull

def interrupting : Stream := failing (fun _ => "") .interrupted

end Stream

namespace Warnings

/-- What printing leaves behind: the tracker, what the stream has stored, and
whether the warning was printed. -/
structure Printed where
  tracker : Tracker
  stored : String
  result : Except Fault Bool

def line (parser text : String) : String := "Warning: " ++ parser ++ ": " ++ text ++ "\n"

/-- What becomes of the tracker when printing has failed. -/
def rolledBack (recorded : Tracker) (fault : Fault) : Tracker :=
  if fault.errorClass.isOrdinary then recorded.withdraw else recorded

def formatted (parser : Value) (complaint : Complaint) : Except Fault String := do
  let name ← parser.displayed.mapError .unwritable
  let text ← complaint.display
  pure (line name text)

def writeLine (stream : Stream) (parser : Value) (complaint : Complaint) :
    String × Except Fault Unit :=
  match formatted parser complaint with
  | .error fault => ("", .error fault)
  | .ok text => stream.write text

def print (tracker : Tracker) (stream : Stream) (parser property : Value)
    (complaint : Complaint) : Printed :=
  match tracker.addIfAbsent parser property with
  | .error fault => ⟨tracker, "", .error fault⟩
  | .ok (false, _) => ⟨tracker, "", .ok false⟩
  | .ok (true, recorded) =>
      match writeLine stream parser complaint with
      | (stored, .ok ()) => ⟨recorded, stored, .ok true⟩
      | (stored, .error fault) => ⟨rolledBack recorded fault, stored, .error fault⟩

end Warnings

end ProtectionLimits

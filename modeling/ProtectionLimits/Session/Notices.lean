import ProtectionLimits.Session.Held

/-!
Contract: the calls of a session that are about warnings and trackers.

Owns recording, forgetting and looking up warnings by the names under which
trackers are held, and printing a warning. Without a name a call is about the
tracker that all share. A printed warning goes to a stream of its own or to the
error stream; what either has stored is a detail of the call, and so is the size
of the tracker behind it.
-/

set_option autoImplicit false

namespace ProtectionLimits.Session

/-- Where a warning is printed. -/
inductive Destination where
  | own (stream : Stream)
  | errors

namespace Destination

/-- How a destination takes what is written to it. -/
def stream : Destination → Stream
  | own stream => stream
  | errors => .working

end Destination

/-- A call about warnings. -/
inductive WarningCommand where
  | make (slot : String)
  | add (tracker : Option String) (parser property : Value)
  | discard (tracker : Option String) (parser property : Value)
  | clear (tracker : Option String)
  | size (tracker : Option String)
  | has (tracker : Option String) (key : Value)
  | literal (tracker : Option String)
  | print (tracker : Option String) (parser property : Value) (complaint : Complaint)
      (destination : Destination)

def replaceTracker (session : Session) (number : Nat) (tracker : Tracker.Form) : Session :=
  { session with trackers := session.trackers.set number tracker }

/-- The tracker under a name, with its number, for a call. What is no tracker does not have
the call. -/
def trackerFor (session : Session) (slot : Option String) (call : String) :
    Except Fault (Nat × Tracker.Form) := do
  let held ← session.trackerUnder slot
  match held with
  | .tracker number => match session.trackers[number]? with
    | some tracker => pure (number, tracker)
    | none => .error (.slotEmpty (slot.getD ""))
  | other => .error (session.refusalOf other call)

/-- The size of something held. Trackers have one, and registries. -/
def sizeOf (session : Session) (held : Held) : Except Fault Nat :=
  match held with
  | .tracker number => (session.trackers[number]?.map Tracker.Form.size).getD (.ok 0)
  | .registry number => (session.registries[number]?.map KeptRegistry.size).getD (.ok 0)
  | other => .error (.withoutSize (session.heldExhibit other).sort)

def madeComplaint : Complaint → Except Fault Complaint
  | .value content => .ok (.value content)
  | .error raised => raised.made.map .error
  | .other shown => .ok (.other shown)

/-- What a call that prints shows besides its result: what the streams have stored, and the
size of what stands for the tracker. -/
def printingDetail (destination : Destination) (stored : String) (size : Nat) : Detail :=
  match destination with
  | .own _ => .printed stored "" size
  | .errors => .printed "" stored size

/-- What is left behind by printing: without a size, the fault of that is all. -/
def afterPrinting (session : Session) (held : Held) (destination : Destination)
    (stored : String) (result : Except Fault Bool) : Effect :=
  match session.sizeOf held with
  | .error fault => session.gives (.error fault)
  | .ok size =>
      { session := session
        result := result.map .truth
        entries := []
        details := [printingDetail destination stored size] }

def printWarning (session : Session) (held : Held) (parser property : Value)
    (complaint : Complaint) (destination : Destination) : Effect :=
  let refused (fault : Fault) : Effect :=
    session.afterPrinting held destination "" (.error fault)
  match madeComplaint complaint, held with
  | .error fault, _ => refused fault
  | .ok complaint, .tracker number => match session.trackers[number]? with
    | none => refused (.slotEmpty "")
    | some tracker =>
        let printed := tracker.print destination.stream parser property complaint
        (session.replaceTracker number printed.tracker).afterPrinting held destination
          printed.stored printed.result
  | .ok _, other => refused (session.refusalOf other "add_if_absent")

/-- What a call about warnings leaves behind. -/
def WarningCommand.run (session : Session) : WarningCommand → Effect
  | make slot => session.becomes (.ok (session.addTracker slot, .nothing))
  | add tracker parser property => session.becomes do
      let (number, tracker) ← session.trackerFor tracker "add_if_absent"
      let (isNew, added) ← tracker.addIfAbsent parser property
      pure (session.replaceTracker number added, .truth isNew)
  | discard tracker parser property => session.becomes do
      let (number, tracker) ← session.trackerFor tracker "discard"
      let remaining ← tracker.discard parser property
      pure (session.replaceTracker number remaining, .nothing)
  | clear tracker => session.becomes do
      let (number, tracker) ← session.trackerFor tracker "clear"
      let cleared ← tracker.clear
      pure (session.replaceTracker number cleared, .nothing)
  | size tracker => session.gives do
      let held ← session.trackerUnder tracker
      let size ← session.sizeOf held
      pure (.count size)
  | has tracker key => session.gives do
      let held ← session.trackerUnder tracker
      match held with
      | .tracker number => do
          let isKey ← (session.trackers[number]?.map fun form => form.contains key).getD (.ok false)
          pure (.truth isKey)
      | other => .error (.notSearchable (session.heldExhibit other).sort)
  | literal tracker => session.gives do
      let held ← session.trackerUnder tracker
      let text ← session.heldLiteral held
      pure (.text text)
  | print tracker parser property complaint destination =>
      match session.trackerUnder tracker with
      | .error fault => session.gives (.error fault)
      | .ok held => session.printWarning held parser property complaint destination

end ProtectionLimits.Session

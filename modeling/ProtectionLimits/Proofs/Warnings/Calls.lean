import ProtectionLimits.Proofs.Session.Refresh
import ProtectionLimits.Proofs.Warnings.Printing
import ProtectionLimits.Session.Transcript

/-!
Contract: warnings that are printed once in a session.

Owns the calls about warnings whose keys are texts, to the shared tracker and to any other that
a caller holds, and the account of a warning over a run of such calls: as long as nothing takes
it back, whether it counts as printed at the end is whether it did at the start plus the number
of calls that were the first to record it. So at most one of them is (`account_of_stretch`),
and only a request to stop leaves a warning recorded that no call said was new.

Does not own trackers whose parts a caller has reached; a run keeps sound trackers sound.
-/

set_option autoImplicit false

namespace ProtectionLimits

namespace Session

/-! ### Trackers under names -/

/-- Whether a name leads to the sound tracker of a number. -/
structure Tracks (session : Session) (slot : Option String) (number : Nat) (tracker : Tracker) :
    Prop where
  under : session.trackerUnder slot = .ok (.tracker number)
  kept : session.trackers[number]? = some (.sound tracker)

/-- The number of the tracker that a name leads to. -/
def numberUnder? (session : Session) (slot : Option String) : Option Nat :=
  match session.trackerUnder slot with
  | .ok (.tracker number) => some number
  | _ => none

/-- Whether a warning counts as printed for the tracker of a number. -/
def warned (session : Session) (number : Nat) (parser property : String) : Bool :=
  match session.trackers[number]? with
  | some (.sound tracker) => tracker.warned parser property
  | _ => false

/-- A call about warnings whose keys are texts, with the name of its tracker. -/
inductive WarningCall where
  | print (slot : Option String) (parser property : String) (complaint : Complaint)
      (destination : Destination)
  | add (slot : Option String) (parser property : String)
  | discard (slot : Option String) (parser property : String)
  | clear (slot : Option String)

namespace WarningCall

/-- The name of the tracker that a call is about. -/
def slot : WarningCall → Option String
  | print slot _ _ _ _ => slot
  | add slot _ _ => slot
  | discard slot _ _ => slot
  | clear slot => slot

def command : WarningCall → Command
  | print slot parser property complaint destination =>
      .warning (.print slot (.text parser) (.text property) complaint destination)
  | add slot parser property => .warning (.add slot (.text parser) (.text property))
  | discard slot parser property => .warning (.discard slot (.text parser) (.text property))
  | clear slot => .warning (.clear slot)

def complaint? : WarningCall → Option Complaint
  | print _ _ _ complaint _ => some complaint
  | _ => none

/-- Whether a call is one that records a warning unless it counts as printed. -/
def records (call : WarningCall) (parser property : String) : Bool :=
  match call with
  | print _ ownParser ownProperty _ _ => parser == ownParser && property == ownProperty
  | add _ ownParser ownProperty => parser == ownParser && property == ownProperty
  | _ => false

/-- Whether a call gave back that it was the first. -/
def isGrant : Except Fault Reply → Bool
  | .ok (.value (.bool isNew)) => isNew
  | _ => false

/-- Whether a call failed for an ordinary reason. -/
def isFailure : Except Fault Reply → Bool
  | .error fault => fault.errorClass.isOrdinary
  | .ok _ => false

/-- Whether a call was cut short by a request to stop. -/
def isStop : Except Fault Reply → Bool
  | .error fault => !fault.errorClass.isOrdinary
  | .ok _ => false

/-- Whether a call takes a warning back: it discards it, clears the tracker, or has recorded
it before an ordinary failure. -/
def removes (call : WarningCall) (parser property : String) (result : Except Fault Reply) :
    Bool :=
  match call with
  | print _ ownParser ownProperty _ _ =>
      (parser == ownParser && property == ownProperty) && isFailure result
  | add _ _ _ => false
  | discard _ ownParser ownProperty => parser == ownParser && property == ownProperty
  | clear _ => true

/-- Whether a call can be made: its tracker is sound, and the error that it complains about can
be made. -/
structure IsPlaced (call : WarningCall) (session : Session) : Prop where
  tracks : ∃ number tracker, session.Tracks call.slot number tracker
  made : ∀ complaint, call.complaint? = some complaint →
    ∃ shown, madeComplaint complaint = .ok shown

end WarningCall

open WarningCall (isGrant isFailure isStop)

/-! ### One call -/

section OneCall

variable {session : Session} {slot : Option String} {number : Nat} {tracker : Tracker}
  {parser property : String}

theorem trackerFor_of_tracks (tracks : session.Tracks slot number tracker) (call : String) :
    session.trackerFor slot call = .ok (number, .sound tracker) := by
  simp only [trackerFor, tracks.under, tracks.kept, Except.bind, bind, pure, Except.pure]

theorem getElem?_set_trackers (tracks : session.Tracks slot number tracker)
    (form : Tracker.Form) : (session.trackers.set number form)[number]? = some form :=
  List.getElem?_set_self (List.getElem?_eq_some_iff.1 tracks.kept).1

/-- What a call leaves behind that has printed to a destination: the tracker and no entry. -/
def printedEffect (session : Session) (number : Nat) (destination : Destination)
    (printed : Warnings.Printed) : Effect where
  session := session.replaceTracker number (.sound printed.tracker)
  result := printed.result.map .truth
  entries := []
  details := [printingDetail destination printed.stored printed.tracker.keys.length]

/-- A printed warning is one that the tracker prints, and nothing else is changed. -/
theorem perform_print (tracks : session.Tracks slot number tracker)
    {complaint shown : Complaint} (made : madeComplaint complaint = .ok shown)
    (destination : Destination) :
    session.perform (WarningCall.print slot parser property complaint destination).command =
      session.printedEffect number destination
        (Warnings.print tracker destination.stream (.text parser) (.text property) shown) := by
  have size (form : Tracker.Form) :
      (session.replaceTracker number form).sizeOf (.tracker number) = form.size := by
    simp only [sizeOf, replaceTracker, getElem?_set_trackers tracks]
    rfl
  simp only [WarningCall.command, perform, WarningCommand.run, tracks.under, printWarning, made,
    tracks.kept, Tracker.Form.print, afterPrinting, size, Tracker.Form.size, printedEffect]

theorem perform_add (tracks : session.Tracks slot number tracker) :
    session.perform (WarningCall.add slot parser property).command =
      { session := session.replaceTracker number (.sound
          (if tracker.warned parser property then tracker
            else tracker.record (Tracker.textKey parser property)))
        result := .ok (.truth !tracker.warned parser property)
        entries := []
        details := [] } := by
  simp only [WarningCall.command, perform, WarningCommand.run, trackerFor_of_tracks tracks,
    Except.bind, bind, Tracker.Form.addIfAbsent, Tracker.addIfAbsent_text]
  cases tracker.warned parser property <;> rfl

theorem perform_discard (tracks : session.Tracks slot number tracker) :
    session.perform (WarningCall.discard slot parser property).command =
      { session := session.replaceTracker number
          (.sound (tracker.forget (Tracker.textKey parser property)))
        result := .ok .nothing
        entries := []
        details := [] } := by
  simp only [WarningCall.command, perform, WarningCommand.run, trackerFor_of_tracks tracks,
    Except.bind, bind, Tracker.Form.discard, Tracker.discard_text]
  rfl

theorem perform_clear (tracks : session.Tracks slot number tracker) :
    session.perform (WarningCall.clear slot).command =
      { session := session.replaceTracker number (.sound .empty)
        result := .ok .nothing
        entries := []
        details := [] } := by
  simp only [WarningCall.command, perform, WarningCommand.run, trackerFor_of_tracks tracks,
    Except.bind, bind, Tracker.Form.clear]
  rfl

end OneCall

/-! ### The account of a call -/

/-- The account of every warning over a call: what the call takes back does not count as printed
behind it, and of all else as much does as did before it or was recorded by it, once. -/
structure WarningCall.Accounts (call : WarningCall) (tracker behind : Tracker)
    (result : Except Fault Reply) : Prop where
  removed : ∀ parser property, call.removes parser property result = true →
    behind.warned parser property = false
  kept : ∀ parser property, call.removes parser property result = false →
    (tracker.warned parser property).toNat +
        (call.records parser property && isGrant result).toNat +
        (call.records parser property && isStop result).toNat =
      (behind.warned parser property).toNat

section Accounts

variable {tracker : Tracker} {ownParser ownProperty : String}

/-- A call that records nothing and takes nothing back leaves the account as it was. -/
theorem accounts_of_idle {call : WarningCall} {result : Except Fault Reply}
    (idle : ∀ parser property, call.removes parser property result = true →
      tracker.warned parser property = false)
    (quiet : isGrant result = false ∧ isStop result = false) :
    call.Accounts tracker tracker result where
  removed := idle
  kept parser property _ := by
    rw [quiet.1, quiet.2, Bool.and_false]
    rfl

/-- A call that records its own warning, and says that it was new or was cut short, adds it to
the account if it did not count as printed. -/
theorem accounts_of_record {call : WarningCall} {result : Except Fault Reply}
    (new : tracker.warned ownParser ownProperty = false)
    (own : ∀ parser property, call.records parser property =
      (parser == ownParser && property == ownProperty))
    (unremoved : ∀ parser property, call.removes parser property result = false)
    (once : (isGrant result).toNat + (isStop result).toNat = 1) :
    call.Accounts tracker (tracker.record (Tracker.textKey ownParser ownProperty)) result where
  removed parser property removed := by
    rw [unremoved] at removed
    cases removed
  kept parser property _ := by
    rw [own, Tracker.warned_record]
    cases same : parser == ownParser && property == ownProperty with
    | false => simp
    | true =>
        rw [Bool.and_eq_true, beq_iff_eq, beq_iff_eq] at same
        obtain ⟨rfl, rfl⟩ := same
        rw [new, Bool.true_and, Bool.true_and, Nat.add_assoc, once]
        rfl

theorem accounts_print (slot : Option String) (complaint shown : Complaint)
    (destination : Destination) :
    let printed := Warnings.print tracker destination.stream (.text ownParser) (.text ownProperty)
      shown
    (WarningCall.print slot ownParser ownProperty complaint destination).Accounts tracker
      printed.tracker (printed.result.map .truth) := by
  have unremoved {parser property : String} {result : Except Fault Reply}
      (quiet : isFailure result = false) :
      (WarningCall.print slot ownParser ownProperty complaint destination).removes parser property
        result = false := by
    rw [WarningCall.removes, quiet, Bool.and_false]
  rcases @Warnings.print_cases tracker destination.stream ownParser ownProperty shown with
    ⟨-, ended⟩ | ⟨new, ⟨stored, -, ended⟩ | ⟨stored, fault, -, ended⟩⟩
  · rw [ended]
    exact accounts_of_idle (fun _ _ removed => by cases (unremoved rfl).symm.trans removed)
      ⟨rfl, rfl⟩
  · rw [ended]
    exact accounts_of_record new (fun _ _ => rfl) (fun _ _ => unremoved rfl) rfl
  · rw [ended]
    cases ordinary : fault.errorClass.isOrdinary with
    | true =>
        refine accounts_of_idle (fun parser property removed => ?_) ⟨rfl, congrArg not ordinary⟩
        rw [WarningCall.removes, Bool.and_eq_true, Bool.and_eq_true, beq_iff_eq, beq_iff_eq]
          at removed
        obtain ⟨⟨rfl, rfl⟩, -⟩ := removed
        exact new
    | false =>
        refine accounts_of_record new (fun _ _ => rfl) (fun _ _ => unremoved ordinary) ?_
        exact congrArg (fun ordinary => 0 + (!ordinary).toNat) ordinary

theorem accounts_add (slot : Option String) :
    (WarningCall.add slot ownParser ownProperty).Accounts tracker
      (if tracker.warned ownParser ownProperty then tracker
        else tracker.record (Tracker.textKey ownParser ownProperty))
      (.ok (.truth !tracker.warned ownParser ownProperty)) := by
  cases known : tracker.warned ownParser ownProperty with
  | true => exact accounts_of_idle nofun ⟨rfl, rfl⟩
  | false => exact accounts_of_record known (fun _ _ => rfl) (fun _ _ => rfl) rfl

theorem accounts_discard (slot : Option String) :
    (WarningCall.discard slot ownParser ownProperty).Accounts tracker
      (tracker.forget (Tracker.textKey ownParser ownProperty)) (.ok .nothing) where
  removed parser property removed := by
    change (parser == ownParser && property == ownProperty) = true at removed
    rw [Tracker.warned_forget, removed, Bool.not_true, Bool.and_false]
  kept parser property unremoved := by
    change (parser == ownParser && property == ownProperty) = false at unremoved
    rw [Tracker.warned_forget, unremoved, Bool.not_false, Bool.and_true]
    rfl

theorem accounts_clear (slot : Option String) :
    (WarningCall.clear slot).Accounts tracker .empty (.ok .nothing) where
  removed _ _ _ := Tracker.warned_empty
  kept _ _ unremoved := by cases unremoved

end Accounts

/-- Every call that can be made keeps the account of every warning to its tracker. -/
theorem accounts_of_call {session : Session} {call : WarningCall} {number : Nat}
    {tracker : Tracker} (tracks : session.Tracks call.slot number tracker)
    (made : ∀ complaint, call.complaint? = some complaint →
      ∃ shown, madeComplaint complaint = .ok shown) :
    ∃ behind : Tracker,
      (session.perform call.command).session = session.replaceTracker number (.sound behind) ∧
      call.Accounts tracker behind (session.perform call.command).result := by
  cases call with
  | print slot parser property complaint destination =>
      replace tracks : session.Tracks slot number tracker := tracks
      obtain ⟨shown, made⟩ := made complaint rfl
      rw [perform_print tracks made]
      exact ⟨_, rfl, accounts_print slot complaint shown destination⟩
  | add slot parser property =>
      replace tracks : session.Tracks slot number tracker := tracks
      rw [perform_add tracks]
      exact ⟨_, rfl, accounts_add slot⟩
  | discard slot parser property =>
      replace tracks : session.Tracks slot number tracker := tracks
      rw [perform_discard tracks]
      exact ⟨_, rfl, accounts_discard slot⟩
  | clear slot =>
      replace tracks : session.Tracks slot number tracker := tracks
      rw [perform_clear tracks]
      exact ⟨_, rfl, accounts_clear slot⟩

/-! ### Printing -/

/-- What is promised of printing: a warning that counts as printed is refused in silence, any
other is printed as a whole line and recorded, and where its text or its line cannot be had the
call fails for that, with the tracker as it was unless it was a request to stop. -/
structure PrintsOnce (session : Session) (number : Nat) (tracker : Tracker)
    (parser property : String) (shown : Complaint) (destination : Destination)
    (effect : Effect) : Prop where
  repeated : effect.result = .ok (.truth false) ↔ tracker.warned parser property = true
  silent : tracker.warned parser property = true →
    effect.session.trackers = session.trackers ∧
      effect.details = [printingDetail destination "" tracker.keys.length]
  printed : effect.result = .ok (.truth true) ↔ tracker.warned parser property = false ∧
    ∃ text, shown.display = .ok text ∧
      (destination.stream.write ("Warning: " ++ parser ++ ": " ++ text ++ "\n")).2 = .ok ()
  recorded : effect.result = .ok (.truth true) →
    effect.session.trackers = session.trackers.set number
        (.sound (tracker.record (Tracker.textKey parser property))) ∧
      ∃ text, shown.display = .ok text ∧
        effect.details = [printingDetail destination
          ("Warning: " ++ parser ++ ": " ++ text ++ "\n") (tracker.keys.length + 1)]
  failed : ∀ fault, effect.result = .error fault ↔ tracker.warned parser property = false ∧
    (shown.display = .error fault ∨ ∃ text, shown.display = .ok text ∧
      (destination.stream.write ("Warning: " ++ parser ++ ": " ++ text ++ "\n")).2 = .error fault)
  restored : ∀ fault, effect.result = .error fault → fault.errorClass.isOrdinary = true →
    effect.session.trackers = session.trackers
  kept : ∀ fault, effect.result = .error fault → fault.errorClass.isOrdinary = false →
    effect.session.trackers = session.trackers.set number
      (.sound (tracker.record (Tracker.textKey parser property)))

theorem replaceTracker_self {session : Session} {slot : Option String} {number : Nat}
    {tracker : Tracker} (tracks : session.Tracks slot number tracker) :
    (session.replaceTracker number (.sound tracker)).trackers = session.trackers := by
  obtain ⟨bound, same⟩ := List.getElem?_eq_some_iff.1 tracks.kept
  rw [replaceTracker, ← same]
  exact List.set_getElem_self bound

section Printing

variable {session : Session} {slot : Option String} {number : Nat} {tracker : Tracker}
  (tracks : session.Tracks slot number tracker) {parser property : String} {shown : Complaint}
  {destination : Destination}

include tracks

/-- What counts as printed is refused in silence. -/
theorem printsOnce_of_known (known : tracker.warned parser property = true) :
    PrintsOnce session number tracker parser property shown destination
      (session.printedEffect number destination ⟨tracker, "", .ok false⟩) where
  repeated := iff_of_true rfl known
  silent := fun _ => ⟨replaceTracker_self tracks, rfl⟩
  printed := iff_of_false nofun fun printed => by cases known.symm.trans printed.1
  recorded := nofun
  failed := fun fault => iff_of_false nofun fun failed => by cases known.symm.trans failed.1
  restored := fun _ failed => by cases failed
  kept := fun _ failed => by cases failed

omit tracks in
/-- A new warning whose line is written is recorded. -/
theorem printsOnce_of_written (new : tracker.warned parser property = false) {stored : String}
    (attempt : Warnings.writeLine destination.stream (.text parser) shown = (stored, .ok ())) :
    PrintsOnce session number tracker parser property shown destination
      (session.printedEffect number destination
        ⟨tracker.record (Tracker.textKey parser property), stored, .ok true⟩) := by
  obtain ⟨text, display, rfl, written⟩ := Warnings.writeLine_ok_iff.1 attempt
  have unfailed (fault : Fault) :
      (Warnings.writeLine destination.stream (.text parser) shown).2 ≠ .error fault := by
    rw [attempt]
    exact nofun
  exact
    { repeated := iff_of_false nofun fun known => by cases new.symm.trans known
      silent := fun known => by cases new.symm.trans known
      printed := iff_of_true rfl ⟨new, text, display, written⟩
      recorded := fun _ => ⟨rfl, text, display,
        congrArg (fun size => [printingDetail destination _ size]) Tracker.length_record⟩
      failed := fun fault => iff_of_false nofun fun failed =>
        unfailed fault (Warnings.writeLine_error_iff.2 failed.2)
      restored := fun _ failed => by cases failed
      kept := fun _ failed => by cases failed }

/-- A new warning whose line cannot be written is taken back, unless the caller asked to stop. -/
theorem printsOnce_of_failed (new : tracker.warned parser property = false) {stored : String}
    {fault : Fault}
    (attempt : Warnings.writeLine destination.stream (.text parser) shown =
      (stored, .error fault)) :
    PrintsOnce session number tracker parser property shown destination
      (session.printedEffect number destination
        ⟨if fault.errorClass.isOrdinary then tracker
          else tracker.record (Tracker.textKey parser property), stored, .error fault⟩) := by
  have causes (cause : Fault) : cause = fault ↔ shown.display = .error cause ∨
      ∃ text, shown.display = .ok text ∧ (destination.stream.write
        (Warnings.line parser text)).2 = .error cause := by
    rw [← Warnings.writeLine_error_iff, attempt, Except.error.injEq, eq_comm]
  have unwritten : ∀ text, shown.display = .ok text →
      (destination.stream.write (Warnings.line parser text)).2 ≠ .ok () := by
    intro text display written
    cases attempt.symm.trans (Warnings.writeLine_ok_iff.2 ⟨text, display, rfl, written⟩)
  exact
    { repeated := iff_of_false nofun fun known => by cases new.symm.trans known
      silent := fun known => by cases new.symm.trans known
      printed := iff_of_false nofun fun ⟨_, text, display, written⟩ =>
        unwritten text display written
      recorded := nofun
      failed := fun cause =>
        ⟨fun same => ⟨new, (causes cause).1 (by cases same; rfl)⟩,
          fun failed => by
            cases (causes cause).2 failed.2
            rfl⟩
      restored := fun cause same ordinary => by
        cases same
        rw [if_pos ordinary]
        exact replaceTracker_self tracks
      kept := fun cause same stop => by
        cases same
        rw [stop]
        rfl }

theorem prints_once {complaint : Complaint} (made : madeComplaint complaint = .ok shown)
    (destination : Destination) :
    PrintsOnce session number tracker parser property shown destination
      (session.perform (WarningCall.print slot parser property complaint destination).command) := by
  rw [perform_print tracks made]
  rcases @Warnings.print_cases tracker destination.stream parser property shown with
    ⟨known, ended⟩ | ⟨new, ⟨stored, attempt, ended⟩ | ⟨stored, fault, attempt, ended⟩⟩
  · rw [ended]
    exact printsOnce_of_known tracks known
  · rw [ended]
    exact printsOnce_of_written new attempt
  · rw [ended]
    exact printsOnce_of_failed tracks new attempt

end Printing

/-! ### Runs -/

/-- A call and the session in which it is made. -/
structure Moment where
  session : Session
  call : WarningCall

namespace Moment

def effect (moment : Moment) : Effect := moment.session.perform moment.call.command

def next (moment : Moment) : Session := (moment.session.answer moment.call.command).1

/-- Whether the call of a moment is about the tracker of a number. -/
def isAt (moment : Moment) (number : Nat) : Bool :=
  moment.session.numberUnder? moment.call.slot == some number

section

variable (moment : Moment) (number : Nat) (parser property : String)

/-- Whether a call says that it was the first to record a warning. -/
def grants : Bool :=
  moment.isAt number && (moment.call.records parser property && isGrant moment.effect.result)

/-- Whether a call that can record a warning is cut short by a request to stop. -/
def interrupts : Bool :=
  moment.isAt number && (moment.call.records parser property && isStop moment.effect.result)

/-- Whether a call takes a warning back. -/
def removes : Bool :=
  moment.isAt number && moment.call.removes parser property moment.effect.result

end

end Moment

def moments (session : Session) : List WarningCall → List Moment
  | [] => []
  | call :: rest => ⟨session, call⟩ :: moments (Moment.next ⟨session, call⟩) rest

def behind (session : Session) (calls : List WarningCall) : Session :=
  (session.answerAll (calls.map WarningCall.command)).1

theorem behind_cons (session : Session) (call : WarningCall) (rest : List WarningCall) :
    session.behind (call :: rest) = (Moment.next ⟨session, call⟩).behind rest :=
  rfl

section Runs

variable {session : Session} {call : WarningCall}

theorem held_perform (placed : call.IsPlaced session) :
    (session.perform call.command).session.held = session.held := by
  obtain ⟨number, tracker, tracks⟩ := placed.tracks
  obtain ⟨behind, performed, -⟩ := accounts_of_call tracks placed.made
  rw [performed]
  rfl

/-- A call that can be made leaves a sound tracker in the place of the one it was about, and
all others as they were. -/
theorem trackers_next (placed : call.IsPlaced session) :
    ∃ number tracker behind, session.Tracks call.slot number tracker ∧
      (Moment.next ⟨session, call⟩).trackers = session.trackers.set number (.sound behind) ∧
      call.Accounts tracker behind (session.perform call.command).result := by
  obtain ⟨number, tracker, tracks⟩ := placed.tracks
  obtain ⟨behind, performed, accounts⟩ := accounts_of_call tracks placed.made
  refine ⟨number, tracker, behind, tracks, ?_, accounts⟩
  rw [Moment.next, answer, (refreshed_keeps _).1, performed]
  rfl

theorem trackerUnder_next (placed : call.IsPlaced session) (slot : Option String) :
    (Moment.next ⟨session, call⟩).trackerUnder slot = session.trackerUnder slot := by
  have held : (Moment.next ⟨session, call⟩).held = session.held := by
    rw [Moment.next, answer, (refreshed_keeps _).2, held_perform placed]
  cases slot with
  | none => rfl
  | some slot => rw [trackerUnder, trackerUnder, heldUnder, heldUnder, held]

/-- What can be made before a call can be made behind it. -/
theorem isPlaced_next (placed : call.IsPlaced session) {other : WarningCall}
    (otherPlaced : other.IsPlaced session) : other.IsPlaced (Moment.next ⟨session, call⟩) where
  made := otherPlaced.made
  tracks := by
    obtain ⟨number, tracker, behind, tracks, trackers, -⟩ := trackers_next placed
    obtain ⟨otherNumber, otherTracker, otherTracks⟩ := otherPlaced.tracks
    have under := (trackerUnder_next placed other.slot).trans otherTracks.under
    by_cases same : number = otherNumber
    · subst same
      refine ⟨number, behind, under, ?_⟩
      rw [trackers, getElem?_set_trackers tracks]
    · refine ⟨otherNumber, otherTracker, under, ?_⟩
      rw [trackers, List.getElem?_set_ne same, otherTracks.kept]

/-- The account of a warning over one call of a run. -/
theorem account_of_moment (placed : call.IsPlaced session) (number : Nat)
    (parser property : String) :
    let moment : Moment := ⟨session, call⟩
    (moment.removes number parser property = true →
      moment.next.warned number parser property = false) ∧
    (moment.removes number parser property = false →
      (session.warned number parser property).toNat +
          (moment.grants number parser property).toNat +
          (moment.interrupts number parser property).toNat =
        (moment.next.warned number parser property).toNat) := by
  intro moment
  obtain ⟨found, tracker, behind, tracks, trackers, accounts⟩ := trackers_next placed
  have isAt : moment.isAt number = (found == number) := by
    rw [Moment.isAt, numberUnder?, tracks.under]
    rfl
  rw [Moment.removes, Moment.grants, Moment.interrupts, isAt]
  by_cases same : found = number
  · subst same
    have before : session.warned found parser property = tracker.warned parser property := by
      rw [warned, tracks.kept]
    have after : moment.next.warned found parser property = behind.warned parser property := by
      rw [warned, trackers, getElem?_set_trackers tracks]
    rw [before, after, BEq.rfl, Bool.true_and, Bool.true_and, Bool.true_and]
    exact ⟨accounts.removed parser property, accounts.kept parser property⟩
  · have untouched : moment.next.warned number parser property =
        session.warned number parser property := by
      rw [warned, trackers, List.getElem?_set_ne same, warned]
    rw [untouched, beq_false_of_ne same]
    exact ⟨nofun, fun _ => rfl⟩

/-- As long as nothing takes a warning back, it counts as printed behind a run if it did before
or one call was the first to record it. -/
theorem account_of_run {calls : List WarningCall} (placed : ∀ call ∈ calls, call.IsPlaced session)
    {number : Nat} {parser property : String}
    (unremoved : ∀ moment ∈ session.moments calls,
      moment.removes number parser property = false) :
    (session.warned number parser property).toNat +
        (session.moments calls).countP (fun moment => moment.grants number parser property) +
        (session.moments calls).countP (fun moment => moment.interrupts number parser property) =
      ((session.behind calls).warned number parser property).toNat := by
  induction calls generalizing session with
  | nil => rfl
  | cons call rest inductionHypothesis =>
      rw [List.forall_mem_cons] at placed
      rw [moments, List.forall_mem_cons] at unremoved
      have step := (account_of_moment placed.1 number parser property).2 unremoved.1
      have later := inductionHypothesis
        (fun other member => isPlaced_next placed.1 (placed.2 other member)) unremoved.2
      have one (holds : Bool) : (if holds = true then 1 else 0) = holds.toNat := by
        cases holds <;> rfl
      rw [moments, List.countP_cons, List.countP_cons, one, one, behind_cons]
      omega

/-- A warning that counts as printed behind a run although it did not before, and although no
call said that it was the first, was recorded by a call that was cut short. -/
theorem exists_interrupts {calls : List WarningCall}
    (placed : ∀ call ∈ calls, call.IsPlaced session) {number : Nat} {parser property : String}
    (fresh : session.warned number parser property = false)
    (recorded : (session.behind calls).warned number parser property = true)
    (ungranted : ∀ moment ∈ session.moments calls,
      moment.grants number parser property = false) :
    ∃ moment ∈ session.moments calls, moment.interrupts number parser property = true := by
  induction calls generalizing session with
  | nil => cases fresh.symm.trans recorded
  | cons call rest inductionHypothesis =>
      rw [List.forall_mem_cons] at placed
      rw [moments, List.forall_mem_cons] at ungranted
      obtain ⟨removed, kept⟩ := account_of_moment placed.1 number parser property
      cases interrupted : Moment.interrupts ⟨session, call⟩ number parser property with
      | true => exact ⟨_, List.mem_cons_self, interrupted⟩
      | false =>
          have stillFresh :
              (Moment.next ⟨session, call⟩).warned number parser property = false := by
            cases removes : Moment.removes ⟨session, call⟩ number parser property with
            | true => exact removed removes
            | false =>
                have account := kept removes
                rw [fresh, ungranted.1, interrupted] at account
                exact Bool.toNat_eq_zero.1 account.symm
          obtain ⟨moment, member, interrupts⟩ := inductionHypothesis
            (fun other member => isPlaced_next placed.1 (placed.2 other member)) stillFresh
            recorded ungranted.2
          exact ⟨moment, List.mem_cons_of_mem _ member, interrupts⟩

/-- Every call of a run that can be made is one that can be made when its turn comes. -/
theorem isPlaced_of_mem_moments {calls : List WarningCall}
    (placed : ∀ call ∈ calls, call.IsPlaced session) {moment : Moment}
    (member : moment ∈ session.moments calls) : moment.call.IsPlaced moment.session := by
  induction calls generalizing session with
  | nil => cases member
  | cons call rest inductionHypothesis =>
      rw [List.forall_mem_cons] at placed
      rcases List.mem_cons.1 member with rfl | later
      · exact placed.1
      · exact inductionHypothesis
          (fun other member => isPlaced_next placed.1 (placed.2 other member)) later

theorem isPlaced_behind {calls : List WarningCall}
    (placed : ∀ call ∈ calls, call.IsPlaced session) {other : WarningCall}
    (otherPlaced : other.IsPlaced session) : other.IsPlaced (session.behind calls) := by
  induction calls generalizing session with
  | nil => exact otherPlaced
  | cons call rest inductionHypothesis =>
      rw [List.forall_mem_cons] at placed
      exact inductionHypothesis
        (fun another member => isPlaced_next placed.1 (placed.2 another member))
        (isPlaced_next placed.1 otherPlaced)

end Runs

/-- Over every run of calls about warnings, each warning is printed as promised, and what was
taken back does not count as printed. In every stretch of the run in which a warning is not
taken back at most one call says that it was the first, and the warning counts as printed
at the end of the stretch exactly if it did at its start, or one call said so, or one was cut
short. So only a call that was cut short leaves a warning recorded that no call said was new. -/
theorem warnings_print_once {session : Session} {calls : List WarningCall}
    (placed : ∀ call ∈ calls, call.IsPlaced session) :
    (∀ moment ∈ session.moments calls, ∀ slot parser property complaint destination,
      moment.call = .print slot parser property complaint destination →
      ∃ number tracker shown, moment.session.Tracks slot number tracker ∧
        madeComplaint complaint = .ok shown ∧
        PrintsOnce moment.session number tracker parser property shown destination
          moment.effect) ∧
    (∀ moment ∈ session.moments calls, ∀ number parser property,
      moment.removes number parser property = true →
      moment.next.warned number parser property = false) ∧
    (∀ before stretch after, calls = before ++ stretch ++ after → ∀ number parser property,
      (∀ moment ∈ (session.behind before).moments stretch,
        moment.removes number parser property = false) →
      ((session.behind before).moments stretch).countP
          (fun moment => moment.grants number parser property) ≤ 1 ∧
      ((session.behind before).warned number parser property).toNat +
          ((session.behind before).moments stretch).countP
            (fun moment => moment.grants number parser property) +
          ((session.behind before).moments stretch).countP
            (fun moment => moment.interrupts number parser property) =
        (((session.behind before).behind stretch).warned number parser property).toNat) ∧
    (∀ number parser property, session.warned number parser property = false →
      (session.behind calls).warned number parser property = true →
      (∀ moment ∈ session.moments calls, moment.grants number parser property = false) →
      ∃ moment ∈ session.moments calls, moment.interrupts number parser property = true) := by
  refine ⟨?_, ?_, ?_, fun _ _ _ => exists_interrupts placed⟩
  · rintro ⟨current, call⟩ member slot parser property complaint destination rfl
    have currentPlaced := isPlaced_of_mem_moments placed member
    obtain ⟨number, tracker, tracks⟩ := currentPlaced.tracks
    obtain ⟨shown, made⟩ := currentPlaced.made complaint rfl
    exact ⟨number, tracker, shown, tracks, made, prints_once tracks made destination⟩
  · intro moment member number parser property
    exact (account_of_moment (isPlaced_of_mem_moments placed member) number parser property).1
  · rintro before stretch after rfl number parser property unremoved
    have beforePlaced : ∀ call ∈ before, call.IsPlaced session :=
      fun call member => placed call (by simp [member])
    have stretchPlaced : ∀ call ∈ stretch, call.IsPlaced (session.behind before) :=
      fun call member => isPlaced_behind beforePlaced (placed call (by simp [member]))
    have account := account_of_run stretchPlaced unremoved
    have atMostOne := Bool.toNat_le (((session.behind before).behind stretch).warned number
      parser property)
    refine ⟨?_, account⟩
    omega

/-- A warning to a tracker of the caller's own is taken back when the stream is full, then
recorded although it is interrupted before there is a line, and so the last call does not find it
new. The same warning is printed once to the shared tracker in between. -/
theorem warnings_print_once_interrupted :
    ∃ (session : Session) (failed : WarningCall) (later : List WarningCall),
      (∀ call ∈ failed :: later, call.IsPlaced session) ∧
      Moment.removes ⟨session, failed⟩ 1 "parser" "property" = true ∧
      (Moment.next ⟨session, failed⟩).warned 1 "parser" "property" = false ∧
      ((session.behind [failed]).moments later).map
          (fun moment => moment.interrupts 1 "parser" "property") = [true, false, false] ∧
      ((session.behind [failed]).moments later).map
          (fun moment => moment.grants 0 "parser" "property") = [false, true, false] ∧
      ((session.behind [failed]).warned 1 "parser" "property").toNat +
          ((session.behind [failed]).moments later).countP
            (fun moment => moment.grants 1 "parser" "property") +
          ((session.behind [failed]).moments later).countP
            (fun moment => moment.interrupts 1 "parser" "property") =
        (((session.behind [failed]).behind later).warned 1 "parser" "property").toNat := by
  let session : Session := ((start 30 []).answer (.warning (.make "own"))).1
  let failed : WarningCall :=
    .print (some "own") "parser" "property" (.value (.text "error")) (.own .full)
  let later : List WarningCall :=
    [.print (some "own") "parser" "property" (.other (.error .interrupted)) (.own .working),
      .print none "parser" "property" (.value (.text "error")) .errors,
      .add (some "own") "parser" "property"]
  have own : session.Tracks (some "own") 1 .empty := ⟨rfl, rfl⟩
  have shared : session.Tracks none 0 .empty := ⟨rfl, rfl⟩
  have placed : ∀ call ∈ failed :: later, call.IsPlaced session := by
    simp only [failed, later, List.forall_mem_cons]
    exact ⟨⟨⟨1, .empty, own⟩, fun _ same => by cases same; exact ⟨_, rfl⟩⟩,
      ⟨⟨1, .empty, own⟩, fun _ same => by cases same; exact ⟨_, rfl⟩⟩,
      ⟨⟨0, .empty, shared⟩, fun _ same => by cases same; exact ⟨_, rfl⟩⟩,
      ⟨⟨1, .empty, own⟩, fun _ same => by cases same⟩, List.forall_mem_nil _⟩
  have removes : Moment.removes ⟨session, failed⟩ 1 "parser" "property" = true := by
    decide +kernel
  obtain ⟨-, forgotten, account, -⟩ := warnings_print_once placed
  refine ⟨session, failed, later, placed, removes,
    forgotten _ List.mem_cons_self 1 "parser" "property" removes, by decide +kernel,
    by decide +kernel, (account [failed] later [] (by simp) 1 "parser" "property" ?_).2⟩
  decide +kernel

end Session

end ProtectionLimits

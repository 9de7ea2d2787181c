import ProtectionLimits.CommandLine
import ProtectionLimits.Manifest
import ProtectionLimits.Session

/-!
Contract: the calls of a session that look things up or run the program.

Owns the calls about the tables of limits and states, the parsing of settings,
the former names, the errors that a caller makes, and the listing program. None
of them changes the session.
-/

set_option autoImplicit false

namespace ProtectionLimits.Session

/-- How a caller names a standard limit. -/
inductive LimitName where
  | name (name : String)
  | ordinal (position : Int)

/-- A call that looks something up, or runs the program. -/
inductive InspectionCommand where
  | parse (property setting : Value)
  | constants
  | limit (name : LimitName)
  | state (number : Value)
  | compareStates (left right : Provenance)
  | formerName (names property : Value)
  | error (error : CallerError)
  | program (arguments : List String) (bindings : List (String × String))
  | programLevel (verbosity : Value)

def standardLimit : LimitName → Except Fault StandardLimit
  | .name name =>
      match StandardLimit.ofName? name with
      | some standard => .ok standard
      | none => .error (.nameUnknown (.text name))
  | .ordinal position => Position.itemAt "list" StandardLimit.all position

def limitReply (standard : StandardLimit) : Reply :=
  .list (.text standard.name :: standard.limit.contents.map .value)

def stateOf (number : Value) : Except Fault State :=
  match State.all.find? fun state => number.equals (.int state.rank) with
  | some state => .ok state
  | none => .error (.stateUnknown number)

def stateReply (state : State) : Reply :=
  .list [.text state.name, .count state.rank, .text state.label]

def comparand : Provenance → Value
  | .state state => .int state.rank
  | .other value => value

def comparandKind : Provenance → Kind
  | .state _ => .object "State"
  | .other value => value.kind

/-- The five comparisons of two states: before, not after, same, not before,
after. -/
def compareReply (left right : Provenance) : Except Fault Reply :=
  match (comparand left).integer?, (comparand right).integer? with
  | some leftNumber, some rightNumber =>
      .ok (.list
        [.truth (leftNumber < rightNumber), .truth (leftNumber ≤ rightNumber),
          .truth (leftNumber = rightNumber), .truth (rightNumber ≤ leftNumber),
          .truth (rightNumber < leftNumber)])
  | _, _ => .error (.notComparable "<" (comparandKind left) (comparandKind right))

/-- The number that an error carries, as a detail of a call. -/
def numberDetail (error : CallerError) : List Detail :=
  match (Fault.caller error).number? with
  | some (property, setting) => [.number property setting]
  | none => []

def describeError (session : Session) (error : CallerError) : Effect :=
  match error.made.bind fun made => made.display.map fun text => (made, text) with
  | .error fault => session.gives (.error fault)
  | .ok (made, text) =>
      { session := session
        result := .ok (.text text)
        entries := []
        details := .lineage (ErrorClass.ofName made.className).lineage :: numberDetail made }

/-- The outcome of the program in an environment of its own. -/
def runProgram (session : Session) (arguments : List String)
    (bindings : List (String × String)) : Effect :=
  match CommandLine.run session.translation.message (Entries.ofList bindings)
      session.settings arguments with
  | .error fault => session.gives (.error fault)
  | .ok outcome =>
      { session := session
        result := .ok (.count outcome.status)
        entries := []
        details := [.streams outcome.output outcome.errors] }

def describes (session : Session) (result : Except Fault (Reply × List Detail)) : Effect :=
  match result with
  | .ok (reply, details) => ⟨session, .ok reply, [], details⟩
  | .error fault => session.gives (.error fault)

def InspectionCommand.run (session : Session) : InspectionCommand → Effect
  | parse property setting => session.gives ((Setting.parse property setting).map .integer)
  | constants => session.gives (.ok Manifest.constants)
  | limit name => session.describes ((standardLimit name).map fun standard =>
      (limitReply standard, [.literal standard.limit.literal]))
  | state number => session.describes ((stateOf number).map fun state =>
      (stateReply state,
        [.literal (state.literal), .display (Decimal.natural state.rank)]))
  | compareStates left right => session.gives (compareReply left right)
  | formerName names property =>
      session.gives ((ProtectionLimits.formerName names property).map .value)
  | error made => session.describeError made
  | program arguments bindings => session.runProgram arguments bindings
  | programLevel verbosity =>
      session.gives ((CommandLine.levelFor verbosity).map .integer)

end ProtectionLimits.Session

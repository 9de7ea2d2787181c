import ProtectionLimits.Session

/-!
Contract: the calls of a session that are about the level of the log.

Owns reading and setting the level, and calls that run within the scope of a
level. Such a call gives back the values it was called with and the names of its
keywords, sorted.
-/

set_option autoImplicit false

namespace ProtectionLimits.Session

/-- A call that may run within the scope of a level: the values and keywords it
is called with, and what it does. -/
structure ScopedCall where
  positional : List Value
  keywords : List (String × Value)
  body : List Log.Statement

namespace ScopedCall

def levelKeyword : String := "loglevel"

def requested (keywords : List (String × Value)) : Value :=
  ((Entries.ofList keywords).lookup levelKeyword).getD .absent

def keywordNames (call : ScopedCall) : List String :=
  ((Entries.ofList call.keywords).map Prod.fst).mergeSort fun left right => left ≤ right

def reply (call : ScopedCall) : Reply :=
  .list [.list (call.positional.map .value), .list (call.keywordNames.map .text)]

def run (call : ScopedCall) (level : Int) : Log.Run Unit :=
  Log.withLevel (requested call.keywords) level (Log.runAll call.body)

end ScopedCall

/-- A call about the level of the log. -/
inductive LevelCommand where
  | levelOf (level : Value)
  | setLevel (level : Value)
  | current
  | callWithin (call : ScopedCall)

def withLevelDetail (effect : Effect) : Effect :=
  { effect with details := effect.details ++ [.level effect.session.level] }

def setLevel (session : Session) (level : Value) : Effect :=
  session.becomes do
    let level ← Log.levelOf level
    pure ({ session with level := level }, .nothing)

def runScoped (session : Session) (call : ScopedCall) : Effect :=
  let run := call.run session.level
  { session := { session with level := run.level }
    result := run.result.map fun _ => call.reply
    entries := run.entries
    details := [] }

def LevelCommand.run (session : Session) : LevelCommand → Effect
  | levelOf level => session.gives ((Log.levelOf level).map .integer)
  | setLevel level => withLevelDetail (session.setLevel level)
  | current => session.gives
      (.ok (.list [.integer session.level, .integer (Log.effective session.level)]))
  | callWithin call => withLevelDetail (session.runScoped call)

end ProtectionLimits.Session

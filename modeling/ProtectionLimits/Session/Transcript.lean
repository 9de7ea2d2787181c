import ProtectionLimits.Session.Inspection
import ProtectionLimits.Session.Languages
import ProtectionLimits.Session.Levels
import ProtectionLimits.Session.Notices
import ProtectionLimits.Session.Objects
import ProtectionLimits.Session.Registries

/-!
Contract: commands, their answers, and the transcript of a session.

Owns the commands of all topics, the answer to a command, and the answers to a
list of commands. A failure is worded in the language in force when the command
is given. The flags that an answer shows are those of the registry itself, so in
a transcript they are the flags at its end, or those that a caller replaced by others.
-/

set_option autoImplicit false

namespace ProtectionLimits

inductive Command where
  | registry (command : Session.RegistryCommand)
  | source (command : Session.SourceCommand)
  | object (command : Session.ObjectCommand)
  | warning (command : Session.WarningCommand)
  | level (command : Session.LevelCommand)
  | language (command : Session.LanguageCommand)
  | inspection (command : Session.InspectionCommand)

/-- The answer to a command. -/
structure Answer where
  outcome : Except Fault.Report Reply
  entries : List Log.Entry
  details : List Detail

namespace Session

def perform (session : Session) : Command → Effect
  | .registry command => command.run session
  | .source command => command.run session
  | .object command => command.run session
  | .warning command => command.run session
  | .level command => command.run session
  | .language command => command.run session
  | .inspection command => command.run session

def reported (session : Session) : Except Fault Reply → Except Fault.Report Reply
  | .ok reply => .ok reply
  | .error fault => .error (fault.report session.translation.message)

def answer (session : Session) (command : Command) : Session × Answer :=
  let effect := session.perform command
  (effect.session.refreshed, ⟨session.reported effect.result, effect.entries, effect.details⟩)

def answerAll (session : Session) : List Command → Session × List Answer
  | [] => (session, [])
  | command :: rest =>
      let (next, first) := session.answer command
      let (last, others) := next.answerAll rest
      (last, first :: others)

def lastFlags? (session : Session) (number generation : Nat) : Option Reply :=
  (session.registries[number]?).bind fun (kept : KeptRegistry) =>
    (kept.formerFlags[generation]?).or kept.form.flags?

/-- A snapshot with the last flags of its generation. -/
def refresh (session : Session) (snapshot : Snapshot) : Snapshot :=
  match snapshot.number.bind fun number => session.lastFlags? number snapshot.generation with
  | some flags => { snapshot with view := { snapshot.view with flags := flags } }
  | none => snapshot

def refreshDetail (session : Session) : Detail → Detail
  | .registry snapshot => .registry (session.refresh snapshot)
  | detail => detail

/-- An answer with the last flags of its registries. -/
def refreshAnswer (session : Session) (answer : Answer) : Answer :=
  { answer with details := answer.details.map session.refreshDetail }

def transcript (session : Session) (commands : List Command) : List Answer :=
  let (last, answers) := session.answerAll commands
  answers.map last.refreshAnswer

end Session

end ProtectionLimits

import ProtectionLimits.Session

/-!
Contract: the calls of a session that are about the language of messages.

Owns activating and deactivating a translation, looking messages up, and the
calls about the shared function.
-/

set_option autoImplicit false

namespace ProtectionLimits.Session

/-- A call about the language of messages. The last one may first replace the
shared function by one that puts a text in front of its argument. -/
inductive LanguageCommand where
  | activate (request : Translation.Request)
  | deactivate
  | isActive
  | message (text : String)
  | shared (text : String) (replacement : Option String)

def withTranslation (session : Session) (translation : Translation) : Session :=
  { session with translation := translation }

def activeReply (translation : Translation) : Reply := .truth translation.isActive

/-- What the shared function gives for a message, as a reply: nothing if there is no such
function. -/
def sharedReply (translation : Translation) (text : String) : Except Fault Reply :=
  match translation.sharedMessage? text with
  | none => .ok (.optionalText none)
  | some said => (said.mapError .unwritable).map fun found => .optionalText (some found)

/-- What a call about the language of messages leaves behind. -/
def LanguageCommand.run (session : Session) : LanguageCommand → Effect
  | activate request => session.becomes do
      let translation ← session.translation.activate request
      pure (session.withTranslation translation, activeReply translation)
  | deactivate =>
      let translation := session.translation.deactivate
      session.becomes (.ok (session.withTranslation translation, activeReply translation))
  | isActive => session.gives (.ok (activeReply session.translation))
  | message text => session.gives
      (((session.translation.message text).mapError .unwritable).map .text)
  | shared text replacement =>
      let translation := match replacement with
        | some lead => session.translation.replaceShared lead
        | none => session.translation
      (session.withTranslation translation).gives (sharedReply translation text)

end ProtectionLimits.Session

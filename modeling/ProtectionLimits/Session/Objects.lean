import ProtectionLimits.Session.Held

/-!
Contract: the calls of a session that are about settings and other objects with
options.

Owns making, deriving and comparing objects by the names under which they are
held, the calls about the default settings, and the calls about single options.
The default settings are an object like any other, so a caller who holds them
can change them. A keyword may pass something that is held under a name.
-/

set_option autoImplicit false

namespace ProtectionLimits.Session

/-- What a keyword passes. -/
inductive KeywordArgument where
  | value (content : Value)
  | held (slot : String)

abbrev Keywords := List (String × KeywordArgument)

def keywordValue (session : Session) : KeywordArgument → Except Fault Value
  | .value content => .ok content
  | .held slot => (session.heldUnder slot).map session.heldValue

/-- The values of keywords. Of a repeated keyword the last value counts. -/
def keywordValues (session : Session) (keywords : Keywords) :
    Except Fault (List (String × Value)) :=
  (keywords.mapM fun keyword =>
    (session.keywordValue keyword.2).map fun value => (keyword.1, value)).map Entries.ofList

def baseOf (session : Session) (keywords : Keywords) : Except Fault Settings.Base :=
  match (Entries.ofList keywords).lookup Settings.baseKeyword with
  | none => .ok .defaults
  | some (.value content) => .ok (.other (.value content))
  | some (.held slot) => do
      let held ← session.heldUnder slot
      let isSettings : Bool := match held with
        | .object number =>
            (session.settings.object? number).any fun object => object.shape == .settings
        | _ => false
      if isSettings then pure (.settings (heldNumber held))
      else pure (.other (session.heldExhibit held))

def baseAndValues (session : Session) (keywords : Keywords) :
    Except Fault (Settings.Base × List (String × Value)) := do
  let values ← session.keywordValues keywords
  let base ← session.baseOf keywords
  pure (base, values.filter fun entry => entry.1 != Settings.baseKeyword)

/-- A call about objects with options. -/
inductive ObjectCommand where
  | make (shape : Shape) (slot : String) (positional : List Value) (keywords : Keywords)
  | makeSettings (slot : String) (positional : List Value) (keywords : Keywords)
  | derive (slot : String) (keywords : Keywords)
  | updateDefaults (keywords : Keywords)
  | resetDefaults
  | holdDefaults (slot : String)
  | equal (left right : String)
  | literal (slot : String)
  | assign (slot name : String) (value : Value)
  | read (slot name : String)
  | delete (slot name : String)
  | initial (shape : Shape) (name : String)
  | label (shape : Shape) (name : String)

def makeObject (session : Session) (shape : Shape) (positional : List Value)
    (keywords : Keywords) : Except Fault OptionObject := do
  let values ← session.keywordValues keywords
  OptionObject.make shape positional values

def deriveSettings (session : Session) (keywords : Keywords) : Except Fault OptionObject := do
  let (base, values) ← session.baseAndValues keywords
  session.settings.derived base values

def withDefaults (session : Session) (settings : Settings) : Session × Reply :=
  ({ session with settings := settings }, .text settings.defaultObject.literal)

/-- Whether two things are equal: they are the same one, or objects with equal
options. -/
def equalHeld (session : Session) (left right : Held) : Bool :=
  left == right ||
    match left, right with
    | .object leftNumber, .object rightNumber =>
        match session.settings.object? leftNumber, session.settings.object? rightNumber with
        | some leftObject, some rightObject => leftObject.sameOptions rightObject
        | _, _ => false
    | _, _ => false

/-! ### Single options -/

def partReply (exhibit : Exhibit) (name : String) (missing : Fault) : Except Fault Reply :=
  match exhibit.part name with
  | .ok part => .ok part.reply
  | .error _ => .error missing

/-- The value of a name on something held: an option of an object, what the object
keeps, or a part of any thing. -/
def readHeld (session : Session) (held : Held) (name : String) : Except Fault Reply :=
  let exhibit := session.heldExhibit held
  let missing := Kept.missing exhibit.className name
  match held with
  | .object number =>
      match (session.settings.object? number).map fun (object : OptionObject) =>
          object.read name with
      | some (.ok value) => .ok (.value value)
      | _ => partReply exhibit name missing
  | _ => partReply exhibit name missing

/-- A value given to a name of something held, and the name read again. -/
def giveAndRead (session : Session) (slot name : String) (value : Value) :
    Except Fault (Session × Reply) := do
  let held ← session.heldUnder slot
  let given ← session.giveHeld held name value
  let reply ← given.readHeld held name
  pure (given, reply)

/-- Something held without what it kept under a name. -/
def takeAway (session : Session) (slot name : String) : Except Fault (Session × Reply) := do
  let held ← session.heldUnder slot
  let left ← session.takeHeld held name
  pure (left, .nothing)

/-- The value with which an option of a shape begins, or a part of its class. -/
def initialValue (shape : Shape) (name : String) : Except Fault Reply :=
  match shape.field? name with
  | some field => .ok (.value field.initial)
  | none =>
      partReply (.kind (Class.named shape.name)) name (.classAttributeMissing shape.name name)

/-- An option as messages show it, or whatever else the class of a shape keeps under a
name. -/
def optionDisplay (session : Session) (shape : Shape) (name : String) : Except Fault Reply :=
  match shape.field? name with
  | none => match Exhibit.keptIn? (Class.named shape.name) name with
    | some kept => (kept.displayed.mapError .unwritable).map .text
    | none => .error (.nameUnknown (.text name))
  | some field =>
      match (shape.optionClass.label field).display session.translation.message with
      | .ok text => .ok (.text text)
      | .error failure => .error (.template failure)

/-- What a call about objects with options leaves behind. -/
def ObjectCommand.run (session : Session) : ObjectCommand → Effect
  | make shape slot positional keywords => session.becomes do
      let object ← session.makeObject shape positional keywords
      pure (session.addObject slot object, .nothing)
  | makeSettings slot positional keywords => session.becomes do
      let object ← session.makeObject .settings positional keywords
      pure (session.addObject slot object, .text object.literal)
  | derive slot keywords => session.becomes do
      let object ← session.deriveSettings keywords
      pure (session.addObject slot object, .text object.literal)
  | updateDefaults keywords => session.becomes do
      let (base, values) ← session.baseAndValues keywords
      let settings ← session.settings.updateDefaults base values
      pure (session.withDefaults settings)
  | resetDefaults => session.becomes (.ok (session.withDefaults session.settings.resetDefaults))
  | holdDefaults slot =>
      session.becomes (.ok
        (session.hold slot (.object session.settings.defaults),
          .text session.settings.defaultObject.literal))
  | equal left right => session.gives do
      let left ← session.heldUnder left
      let right ← session.heldUnder right
      pure (.truth (session.equalHeld left right))
  | literal slot => session.gives do
      let held ← session.heldUnder slot
      let text ← session.heldLiteral held
      pure (.text text)
  | assign slot name value => session.becomes (session.giveAndRead slot name value)
  | read slot name => session.gives do
      let held ← session.heldUnder slot
      session.readHeld held name
  | delete slot name => session.becomes (session.takeAway slot name)
  | initial shape name => session.gives (initialValue shape name)
  | label shape name => session.gives (session.optionDisplay shape name)

end ProtectionLimits.Session

import ProtectionLimits.Session

/-!
Contract: whatever a session holds.

Owns what is held as text and as messages show it, the fault of asking it for a call that
it does not have, giving it something to keep, and taking something away. Owns also
what is held wherever it is shown inside of something else: a registry shows its source,
and an object shows what it keeps, as they are by now.
-/

set_option autoImplicit false

namespace ProtectionLimits.Session

def heldLiteral (session : Session) : Held → Except Fault String
  | .registry number => (session.registries[number]?.map KeptRegistry.literal).getD (.ok "")
  | .source number => (session.sources[number]?.map Source.literal).getD (.ok "")
  | .object number =>
      ((session.settings.object? number).map fun (object : OptionObject) =>
        object.written.mapError .unwritable).getD (.ok "")
  | .tracker number => (session.trackers[number]?.map Tracker.Form.literal).getD (.ok "")

/-- Something held as messages show it. -/
def heldExhibit (session : Session) (held : Held) : Exhibit :=
  let found := match held with
    | .registry number => session.registries[number]?.map KeptRegistry.exhibit
    | .source number => session.sources[number]?.map Source.exhibit
    | .object number => (session.settings.object? number).map OptionObject.exhibit
    | .tracker number => session.trackers[number]?.map Tracker.Form.exhibit
  found.getD (.value .absent)

/-- The fault of asking something held for a call that it does not have. -/
def refusalOf (session : Session) (held : Held) (call : String) : Fault :=
  Source.refusal (session.heldExhibit held) call

def heldNumber : Held → Nat
  | .registry number => number
  | .source number => number
  | .object number => number
  | .tracker number => number

/-- Whether something held counts as true: a registry or a tracker does unless its size is
zero, and anything else does. -/
def heldIsTrue (session : Session) : Held → Bool
  | .registry number => match session.registries[number]?.map KeptRegistry.size with
    | some (.ok size) => size != 0
    | _ => true
  | .tracker number => match session.trackers[number]?.map Tracker.Form.size with
    | some (.ok size) => size != 0
    | _ => true
  | _ => true

def heldValue (session : Session) (held : Held) : Value :=
  let exhibit := session.heldExhibit held
  .object (heldNumber held)
    { className := exhibit.className
      isTrue := session.heldIsTrue held
      unwritable := match exhibit.written with
        | .error reason => some reason
        | .ok _ => none }
    exhibit.literal

def heldOfClass (number : Nat) (className : String) : Held :=
  if className = Registry.className then .registry number
  else if className = Tracker.className then .tracker number
  else if className = Source.layeredName || className = Source.preparedName then .source number
  else .object number

/-! ### Reaching parts -/

def withRegistry (session : Session) (number : Nat) (name : String)
    (change : Registry.Form → Except Fault Registry.Form) : Except Fault Session :=
  match session.registries[number]? with
  | none => .ok session
  | some kept => (change kept.form).map fun form =>
      { session with registries := session.registries.set number (kept.changed name form) }

def changeAt {Item : Type} (items : List Item) (number : Nat)
    (change : Item → Except Fault Item) : Except Fault (List Item) :=
  match items[number]? with
  | none => .ok items
  | some item => (change item).map (items.set number)

/-- The session with a value given to something held under a name of its own. -/
def giveHeld (session : Session) (held : Held) (name : String) (value : Value) :
    Except Fault Session :=
  match held with
  | .registry number => session.withRegistry number name fun form => form.give name value
  | .source number =>
      (changeAt session.sources number fun source => source.give name value).map fun sources =>
        { session with sources := sources }
  | .object number =>
      (changeAt session.settings.objects number fun object => object.assign name value).map
        fun objects => { session with settings := { session.settings with objects := objects } }
  | .tracker number =>
      (changeAt session.trackers number fun tracker => tracker.give name value).map
        fun trackers => { session with trackers := trackers }

/-- The session without what something held kept under a name. -/
def takeHeld (session : Session) (held : Held) (name : String) : Except Fault Session :=
  match held with
  | .registry number => session.withRegistry number name fun form => form.take name
  | .source number =>
      (changeAt session.sources number fun source => source.take name).map fun sources =>
        { session with sources := sources }
  | .object number =>
      (changeAt session.settings.objects number fun object => object.delete name).map
        fun objects => { session with settings := { session.settings with objects := objects } }
  | .tracker number =>
      (changeAt session.trackers number fun tracker => tracker.take name).map
        fun trackers => { session with trackers := trackers }

/-! ### What is shown inside of something else -/

def presentValue (session : Session) : Value → Value
  | .object number nature _ => session.heldValue (heldOfClass number nature.className)
  | other => other

/-- The session with what the object of a number keeps as it looks by now. -/
def refreshObject (session : Session) (number : Nat) : Session :=
  match session.settings.object? number with
  | none => session
  | some object =>
      { session with
        settings := session.settings.replace number
          { object with
            stored := object.stored.map fun entry => (entry.1, session.presentValue entry.2) } }

/-- The session with the source of the registry of a number as it looks by now. -/
def refreshRegistry (session : Session) (number : Nat) : Session :=
  match session.registries[number]? with
  | some ⟨form, some source, _⟩ =>
      session.withForm number (form.withSource (session.heldExhibit source))
  | _ => session

/-- The session with everything as it looks by now. What is shown inside of something else
was there before it. -/
def refreshed (session : Session) : Session :=
  let objects := (List.range session.settings.objects.length).foldl refreshObject session
  (List.range session.registries.length).foldl refreshRegistry objects

end ProtectionLimits.Session

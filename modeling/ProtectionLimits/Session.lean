import ProtectionLimits.Fault.Report
import ProtectionLimits.Registry.Form
import ProtectionLimits.Settings
import ProtectionLimits.Translation
import ProtectionLimits.Warnings.Opened

/-!
Contract: everything that calls can see and change, and what a call leaves
behind.

Owns the session: the level of the log, the environment, all registries, sources,
settings and trackers that were made, the translation in force, and the names
under which a caller holds them. Things are known by number, so one thing can be
held under several names. The tracker of number zero is the one that all share.
An effect is what a call leaves behind: the session, its result, the entries of
the log that came through, and further details. Does not own any call; the
modules under `Session` do.
-/

set_option autoImplicit false

namespace ProtectionLimits

/-- What a caller holds under a name. -/
inductive Held where
  | registry (number : Nat)
  | source (number : Nat)
  | object (number : Nat)
  | tracker (number : Nat)
deriving DecidableEq, Repr

/-- A registry as a session keeps it: the registry, what is held that is its source, and
the flags that it had before a caller gave it others. -/
structure KeptRegistry where
  form : Registry.Form
  source : Option Held
  formerFlags : List Reply

namespace KeptRegistry

def literal (kept : KeptRegistry) : Except Fault String := kept.form.literal

def exhibit (kept : KeptRegistry) : Exhibit := kept.form.exhibit

def size (kept : KeptRegistry) : Except Fault Nat := kept.form.size

/-- A registry of which a part was given or taken. Its source and its flags are its former
ones if it has others now. -/
def changed (kept : KeptRegistry) (name : String) (form : Registry.Form) : KeptRegistry where
  form := form
  source := if name = Kept.whole ∨ name = "config" then none else kept.source
  formerFlags :=
    if name = Kept.whole ∨ name = "is_set_flags" then
      kept.formerFlags ++ [kept.form.flags?.getD .nothing]
    else kept.formerFlags

end KeptRegistry

/-- Everything that calls can see and change. -/
structure Session where
  level : Int
  bindings : List (String × String)
  registries : List KeptRegistry
  sources : List Source
  settings : Settings
  trackers : List Tracker.Form
  translation : Translation
  held : List (String × Held)

/-- What is shown of a registry, of its number, and how many flags it had before. The
flags are those of the registry itself, so they always are the last ones of their
generation; all else stays as it was. -/
structure Snapshot where
  number : Option Nat
  generation : Nat
  view : Registry.View

/-- What a call leaves behind besides its result. -/
inductive Detail where
  | registry (snapshot : Snapshot)
  | printed (output errors : String) (size : Nat)
  | level (level : Int)
  | streams (output errors : String)
  | literal (text : String)
  | display (text : String)
  | lineage (names : List String)
  | number (property setting : Value)

/-- What a call leaves behind. -/
structure Effect where
  session : Session
  result : Except Fault Reply
  entries : List Log.Entry
  details : List Detail

namespace Session

def start (level : Int) (bindings : List (String × String)) : Session where
  level := level
  bindings := Entries.ofList bindings
  registries := []
  sources := []
  settings := .initial
  trackers := [.sound .empty]
  translation := .initial
  held := []

/-- The session with something held under a name, in place of what was held
there before. -/
def hold (session : Session) (slot : String) (held : Held) : Session :=
  { session with held := Entries.enter session.held slot held }

def heldUnder (session : Session) (slot : String) : Except Fault Held :=
  match session.held.lookup slot with
  | some held => .ok held
  | none => .error (.slotEmpty slot)

/-- What is held under a name where a tracker belongs, and the shared tracker without a
name. -/
def trackerUnder (session : Session) : Option String → Except Fault Held
  | none => .ok (.tracker 0)
  | some slot => session.heldUnder slot

def addRegistry (session : Session) (slot : String) (registry : Registry)
    (source : Option Held) : Session :=
  let kept : KeptRegistry := ⟨.sound registry, source, []⟩
  { session with registries := session.registries ++ [kept] }.hold slot
    (.registry session.registries.length)

/-- The session with a new source held under a name. -/
def addSource (session : Session) (slot : String) (source : Source) : Session :=
  { session with sources := session.sources ++ [source] }.hold slot
    (.source session.sources.length)

/-- The session with a new object held under a name. -/
def addObject (session : Session) (slot : String) (object : OptionObject) : Session :=
  let (number, settings) := session.settings.add object
  { session with settings := settings }.hold slot (.object number)

/-- The session with a new tracker held under a name. -/
def addTracker (session : Session) (slot : String) : Session :=
  { session with trackers := session.trackers ++ [Tracker.Form.sound .empty] }.hold slot
    (.tracker session.trackers.length)

def withForm (session : Session) (number : Nat) (form : Registry.Form) : Session :=
  { session with
    registries := session.registries.modify number fun kept => { kept with form := form } }

def snapshot (number : Nat) (kept : KeptRegistry) : Except Fault Snapshot :=
  kept.form.view.map fun view => ⟨some number, kept.formerFlags.length, view⟩

/-- A call that changes nothing. -/
def gives (session : Session) (result : Except Fault Reply) : Effect :=
  ⟨session, result, [], []⟩

/-- A call that changes the session if it succeeds. -/
def becomes (session : Session) (result : Except Fault (Session × Reply)) : Effect :=
  match result with
  | .ok (changed, reply) => ⟨changed, .ok reply, [], []⟩
  | .error fault => ⟨session, .error fault, [], []⟩

/-! ### Small facts -/

/-- Something held under a name is found there. -/
@[simp] theorem lookup_hold (session : Session) (slot : String) (held : Held) :
    (session.hold slot held).held.lookup slot = some held := by
  simp [hold]

end Session

end ProtectionLimits

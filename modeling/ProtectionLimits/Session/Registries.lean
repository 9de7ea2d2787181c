import ProtectionLimits.Session.Held

/-!
Contract: the calls of a session that are about registries and their sources.

Owns how a caller describes a source and a table, and making, changing and asking
registries by the names under which they are held. A description is turned into
what it describes before anything is made of it. A change shows the registry as
it is behind the change, whether or not the change was accepted.
-/

set_option autoImplicit false

namespace ProtectionLimits.Session

/-- How a caller describes a source. -/
inductive SourceArgument where
  | process
  | held (slot : String)
  | layers (environment settings : Value)
  | prepared (answers : List (String × Option Found))

/-- How a caller describes an item of a table. Items that share a number are one
object. -/
inductive TableItem where
  | standard (name : String)
  | custom (limit : Limit) (shared : Option Nat)

/-- How a caller describes a table. -/
inductive TableArgument where
  | standard
  | value (content : Value)
  | items (items : List TableItem)

/-- What a caller passes to make a registry; what is left out has its initial
value. -/
structure RegistryArguments where
  secure : Option Value
  level : Option Value
  names : Value
  source : SourceArgument
  table : TableArgument
  others : List String

def heldSource (session : Session) (held : Held) : Source :=
  match held with
  | .source number => session.sources[number]?.getD (.foreign (session.heldExhibit held))
  | other => .foreign (session.heldExhibit other)

def resolveSource (session : Session) : SourceArgument → Except Fault (Source × Option Held)
  | .process =>
      (Source.ofLayers session.bindings .absent .absent).map fun source => (source, none)
  | .held slot =>
      (session.heldUnder slot).map fun held => (session.heldSource held, some held)
  | .layers environment settings =>
      (Source.ofLayers session.bindings environment settings).map fun source => (source, none)
  | .prepared answers => .ok (.prepared answers, none)

/-- The limits of the items from a place on. The shared ones before that place
are known. -/
def resolveItems (place : Nat) (known : List (Nat × Limit)) :
    List TableItem → Except Fault (List Limit)
  | [] => .ok []
  | .standard name :: rest =>
      match StandardLimit.ofName? name with
      | some standard => (resolveItems (place + 1) known rest).map (standard.limit :: ·)
      | none => .error (.nameUnknown (.text name))
  | .custom limit none :: rest =>
      (resolveItems (place + 1) known rest).map ({ limit with identity := .custom place } :: ·)
  | .custom limit (some shared) :: rest =>
      match known.lookup shared with
      | some first => (resolveItems (place + 1) known rest).map (first :: ·)
      | none =>
          let made := { limit with identity := .custom place }
          (resolveItems (place + 1) ((shared, made) :: known) rest).map (made :: ·)

def resolveTable : TableArgument → Except Fault Table
  | .standard => .ok .standard
  | .value content => .ok (.value content)
  | .items items => (resolveItems 0 [] items).map .limits

/-- What the arguments ask for, and what is held that is the source. -/
def resolveArguments (session : Session) (arguments : RegistryArguments) :
    Except Fault (Registry.Creation × Option Held) := do
  let (source, held) ← session.resolveSource arguments.source
  let table ← resolveTable arguments.table
  let creation : Registry.Creation :=
    { secure := arguments.secure.getD (.bool false)
      table := table
      source := source
      names := arguments.names
      level := arguments.level.getD .absent
      keywords := arguments.others }
  pure (creation, held)

/-- What the arguments ask of settings, and what is held that is the source. What settings
decide is an argument too many. -/
def resolveRequest (session : Session) (arguments : RegistryArguments) :
    Except Fault (Settings.RegistryRequest × Option Held) := do
  let (creation, held) ← session.resolveArguments arguments
  let decided := (arguments.secure.toList.map fun _ => "secure_processing") ++
    arguments.level.toList.map fun _ => "loglevel"
  let request : Settings.RegistryRequest :=
    { table := creation.table
      source := creation.source
      names := creation.names
      keywords := decided ++ arguments.others }
  pure (request, held)

/-- What is left behind by a call that was to make a registry. -/
def afterMaking (session : Session) (slot : String) (source : Option Held)
    (run : Log.Run Registry) : Effect :=
  let session := { session with level := run.level }
  match run.result with
  | .error fault => ⟨session, .error fault, run.entries, []⟩
  | .ok registry =>
      { session := session.addRegistry slot registry source
        result := .ok (.count registry.rows.length)
        entries := run.entries
        details := [.registry ⟨some session.registries.length, 0, registry.view⟩] }

/-- A call about registries. -/
inductive RegistryCommand where
  | make (slot : String) (arguments : RegistryArguments)
  | makeFrom (settings slot : String) (arguments : RegistryArguments)
  | call (slot : String) (call : Registry.Call Reference)
  | ask (slot : String) (query : Registry.Query Reference)

def makeRegistry (session : Session) (slot : String) (arguments : RegistryArguments) : Effect :=
  match session.resolveArguments arguments with
  | .error fault => session.gives (.error fault)
  | .ok (creation, source) =>
      session.afterMaking slot source (Registry.create creation session.level)

/-- The settings that are held, for making a registry. What is not settings does not have
the call, and neither do settings that keep something under its name. -/
def settingsFor (session : Session) (held : Held) : Except Fault OptionObject :=
  let refused : Except Fault OptionObject := .error (session.refusalOf held "get_registry")
  match held with
  | .object number => match session.settings.object? number with
    | some object =>
        if object.shape == .settings && (object.stored? "get_registry").isNone then .ok object
        else refused
    | none => refused
  | _ => refused

/-- A new registry made from settings. That settings do not have the call is found out
first, and that what stands in its place cannot be called last. -/
def makeRegistryFrom (session : Session) (settings slot : String)
    (arguments : RegistryArguments) : Effect :=
  match session.heldUnder settings with
  | .error fault => session.gives (.error fault)
  | .ok held =>
      match session.settingsFor held, session.resolveRequest arguments with
      | .error (.attributeMissing given part), _ =>
          session.gives (.error (.attributeMissing given part))
      | _, .error fault => session.gives (.error fault)
      | .error fault, _ => session.gives (.error fault)
      | .ok object, .ok (request, source) =>
          session.afterMaking slot source (Settings.makeRegistry object request session.level)

/-- A change of the registry of a number. It shows the registry as it is behind the call,
and where that cannot be shown, nothing else is answered. -/
def changeRegistry (session : Session) (number : Nat) (kept : KeptRegistry)
    (call : Registry.Call Target) : Effect :=
  let outcome := kept.form.perform session.level call
  let changed := { kept with form := outcome.form }
  let session := { session with registries := session.registries.set number changed }
  match snapshot number changed with
  | .error fault => ⟨session, .error fault, outcome.entries, []⟩
  | .ok shown => ⟨session, outcome.result, outcome.entries, [.registry shown]⟩

/-- A change that is asked of something else than a registry. -/
def refuseChange (session : Session) (held : Held) (call : Registry.Call Reference) : Effect :=
  match Registry.View.ofExhibit (session.heldExhibit held) with
  | .error fault => session.gives (.error fault)
  | .ok view =>
      ⟨session, .error (session.refusalOf held call.name), [], [.registry ⟨none, 0, view⟩]⟩

/-- A change of what is held under a name. -/
def callRegistry (session : Session) (slot : String) (call : Registry.Call Reference) : Effect :=
  match session.heldUnder slot with
  | .error fault => session.gives (.error fault)
  | .ok (.registry number) => match session.registries[number]? with
    | none => session.gives (.error (.slotEmpty slot))
    | some kept => match call.resolve kept.form.resolve with
      | .error fault => session.gives (.error fault)
      | .ok call => session.changeRegistry number kept call
  | .ok other => session.refuseChange other call

/-- The answer to a query of something else than a registry. Anything has a text, and a
tracker has a size. -/
def refuseQuery (session : Session) (held : Held) (query : Registry.Query Reference) :
    Except Fault Reply :=
  match query, held with
  | .literal, _ => (session.heldLiteral held).map .text
  | .size, .tracker number => match session.trackers[number]? with
    | some tracker =>
        if (tracker.reached.parts.under? "__len__").isSome then
          .error (session.refusalOf held "__len__")
        else tracker.size.map .count
    | none => .error (session.refusalOf held "__len__")
  | query, _ => .error (session.refusalOf held (query.name?.getD ""))

/-- The answer of what is held under a name. -/
def askRegistry (session : Session) (slot : String) (query : Registry.Query Reference) :
    Except Fault Reply := do
  let held ← session.heldUnder slot
  match held with
  | .registry number => match session.registries[number]? with
    | none => .error (.slotEmpty slot)
    | some kept => do
        let query ← query.resolve kept.form.resolve
        kept.form.answer query
  | other => session.refuseQuery other query

def RegistryCommand.run (session : Session) : RegistryCommand → Effect
  | make slot arguments => session.makeRegistry slot arguments
  | makeFrom settings slot arguments => session.makeRegistryFrom settings slot arguments
  | call slot change => session.callRegistry slot change
  | ask slot query => session.gives (session.askRegistry slot query)

/-! ### Sources -/

/-- A call about sources. -/
inductive SourceCommand where
  | make (slot : String) (argument : SourceArgument)
  | get (slot : String) (name : Value)
  | makeAbstract

def provenanceReply : Provenance → Reply
  | .state state => .state state
  | .other value => .value value

def foundReply : Option Found → Reply
  | some (setting, provenance) => .list [.value setting, provenanceReply provenance]
  | none => .nothing

/-- What a call about sources leaves behind. A source that is held already is held under
one name more. -/
def SourceCommand.run (session : Session) : SourceCommand → Effect
  | make slot argument => session.becomes do
      let (source, held) ← session.resolveSource argument
      let text ← match held with
        | some held => session.heldLiteral held
        | none => source.literal
      pure (match held with
        | some held => (session.hold slot held, .text text)
        | none => (session.addSource slot source, .text text))
  | get slot name => session.gives do
      let held ← session.heldUnder slot
      let found ← (session.heldSource held).get name
      pure (foundReply found)
  | makeAbstract => session.gives (.error .sourceAbstract)

end ProtectionLimits.Session

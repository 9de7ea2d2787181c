import ProtectionLimits.Fault
import ProtectionLimits.Translation.Locale
import ProtectionLimits.Translation.Place

/-!
Contract: which translation of the messages is in force.

Owns the search for the catalogs of some languages, and the translation that is
active. Every activation makes a new
translation, which differs from any other even if both hold the same catalogs.
On request it is also installed as the shared function that other programs call.
Deactivating withdraws that function only if it still is the one that was
installed. An activation that fails changes nothing.
-/

set_option autoImplicit false

namespace ProtectionLimits

namespace Translation

def found (files : List CatalogFile) (languages : List String) : List CatalogFile :=
  (searched languages).filterMap (file? files)

/-- The catalogs that files hold, up to the first that cannot be read. -/
def readAll (files : List CatalogFile) : Except Fault (List Catalog) :=
  match files.mapM Catalog.read with
  | .ok catalogs => .ok catalogs
  | .error fault => .error (.catalog fault)

/-- What an edition of the library finds for a message: the translation by the first
catalog that has it, and the message itself where none does. A catalog whose rule fails
ends the search. -/
def translated (edition : Edition) : List Catalog → String → Written
  | [], message => .ok message
  | catalog :: rest, message => do
      match ← catalog.message? edition message with
      | some translation => pure translation
      | none => translated edition rest message

/-- A translation that was activated: the number of its activation, the edition of the
library that it was made by, and its catalogs in order of preference. -/
structure Active where
  number : Nat
  edition : Edition
  catalogs : List Catalog
deriving DecidableEq, Repr

def Active.message (active : Active) (text : String) : Written :=
  translated active.edition active.catalogs text

/-- What the shared function is: an installed translation, or the function of
another program, which puts a text in front of its argument. -/
inductive SharedFunction where
  | installed (translation : Active)
  | foreign (lead : String)
deriving DecidableEq, Repr

def SharedFunction.apply : SharedFunction → String → Written
  | installed translation, message => translation.message message
  | foreign lead, message => .ok (lead ++ message)

end Translation

/-- The translation in force, whether it was installed as the shared function,
the shared function as it now is, and the number of the next activation. -/
structure Translation where
  active : Option Translation.Active
  isInstalled : Bool
  shared : Option Translation.SharedFunction
  next : Nat
deriving DecidableEq, Repr

namespace Translation

/-- Nothing is active and there is no shared function. -/
def initial : Translation := ⟨none, false, none, 0⟩

def isActive (translation : Translation) : Bool := translation.active.isSome

def message (translation : Translation) (text : String) : Written :=
  match translation.active with
  | some active => active.message text
  | none => .ok text

def holdsShared (translation : Translation) : Bool :=
  match translation.active with
  | some active => translation.isInstalled && translation.shared == some (.installed active)
  | none => false

/-- Nothing is active any more, and the shared function is withdrawn if it is the
one that was installed. -/
def deactivate (translation : Translation) : Translation where
  active := none
  isInstalled := false
  shared := if translation.holdsShared then none else translation.shared
  next := translation.next

/-- What a caller asks of an activation, and the edition of the library that carries it
out. A request with fallback is content with no catalog at all. -/
structure Request where
  files : List CatalogFile
  languages : List String
  fallback : Bool
  install : Bool
  edition : Edition := .messages

/-- A new translation in place of whatever was active. -/
def start (translation : Translation) (edition : Edition) (catalogs : List Catalog)
    (install : Bool) : Translation :=
  let active : Active := ⟨translation.next, edition, catalogs⟩
  { active := some active
    isInstalled := install
    shared := if install then some (.installed active) else translation.deactivate.shared
    next := translation.next + 1 }

/-- The translation that a caller asked for, if it can be had. -/
def activate (translation : Translation) (request : Request) : Except Fault Translation :=
  match found request.files request.languages with
  | [] =>
      if request.fallback then .ok (translation.start request.edition [] request.install)
      else .error .catalogMissing
  | files => (readAll files).map fun catalogs =>
      translation.start request.edition catalogs request.install

/-- The shared function replaced by the function of another program. -/
def replaceShared (translation : Translation) (lead : String) : Translation :=
  { translation with shared := some (.foreign lead) }

/-- What the shared function gives for a message, if there is one. -/
def sharedMessage? (translation : Translation) (text : String) : Option Written :=
  translation.shared.map fun shared => shared.apply text

/-! ### Small facts -/

@[simp] theorem message_deactivate (translation : Translation) (text : String) :
    translation.deactivate.message text = .ok text := rfl

end Translation

end ProtectionLimits

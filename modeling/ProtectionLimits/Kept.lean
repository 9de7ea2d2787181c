import ProtectionLimits.Fault

/-!
Contract: what things keep under names, and callers who reach it.

Owns finding what is kept under a name, giving a thing something to keep, and taking it
away. Three names belong to the thing itself: all that it keeps can be replaced by a
mapping or taken away at once, and its class and the references to it are not a
caller's. Under any other name a thing keeps what it is given. `under?_give` and
`under?_take` say that giving and taking touch one name only.
-/

set_option autoImplicit false

namespace ProtectionLimits

/-- What a thing keeps under names, in the order in which the names came. -/
abbrev Kept (Item : Type) := List (Value × Item)

namespace Kept

variable {Item : Type}

/-- The name of all that a thing keeps. -/
def whole : String := "__dict__"

def classPart : String := "__class__"

def references : String := "__weakref__"

def ofNames (named : List (String × Item)) : Kept Item :=
  named.map fun entry => (.text entry.1, entry.2)

def names (kept : Kept Item) : List (String × Item) :=
  kept.filterMap fun entry => match entry.1 with
    | .text name => some (name, entry.2)
    | _ => none

def under? (kept : Kept Item) (name : String) : Option Item := Value.lookup? (.text name) kept

def enter (kept : Kept Item) (name : String) (item : Item) : Kept Item :=
  Value.insert kept (.text name) item

def missing (className name : String) : Fault := .attributeMissing (.object className) name

/-- What a thing of a class keeps when it has been given a value. -/
def give (className : String) (asItem : Value → Item) (kept : Kept Item) (name : String)
    (value : Value) : Except Fault (Kept Item) :=
  if name = whole then
    match value with
    | .mapping entries => .ok (entries.map fun entry => (entry.1, asItem entry.2))
    | other => .error (.keptKind other.kind)
  else if name = classPart then .error (.classKind value.kind)
  else if name = references then .error (.partFixed className name)
  else .ok (kept.enter name (asItem value))

/-- What a thing of a class keeps when something has been taken away. -/
def take (className : String) (kept : Kept Item) (name : String) : Except Fault (Kept Item) :=
  if name = whole then .ok []
  else if name = classPart then .error .classTaken
  else if name = references then .error (.partFixed className name)
  else if (kept.under? name).isSome then .ok (Value.without kept (.text name))
  else .error (missing className name)

/-! ### Giving and taking -/

@[simp] theorem under?_enter (kept : Kept Item) (name other : String) (item : Item) :
    (kept.enter name item).under? other = if other = name then some item else kept.under? other :=
  Value.lookup?_insert_text kept name other item

/-- A name that is not the thing's own has what was given to it, and all other names
keep what they had. -/
theorem under?_give {className name : String} {asItem : Value → Item} {kept given : Kept Item}
    {value : Value} (isOther : name ≠ whole)
    (accepted : kept.give className asItem name value = .ok given) (other : String) :
    given.under? other = if other = name then some (asItem value) else kept.under? other := by
  unfold give at accepted
  rw [if_neg isOther] at accepted
  split at accepted
  · cases accepted
  · split at accepted
    · cases accepted
    · cases accepted
      exact under?_enter kept name other (asItem value)

/-- A name that is not the thing's own has nothing when it was taken away, and all other
names keep what they had. -/
theorem under?_take {className name : String} {kept left : Kept Item} (isOther : name ≠ whole)
    (accepted : kept.take className name = .ok left) (other : String) :
    left.under? other = if other = name then none else kept.under? other := by
  unfold take at accepted
  rw [if_neg isOther] at accepted
  repeat' split at accepted
  all_goals cases accepted
  exact Value.lookup?_without_text kept name other

end Kept

end ProtectionLimits

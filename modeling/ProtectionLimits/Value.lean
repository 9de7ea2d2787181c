import ProtectionLimits.Number

/-!
Contract: the values that callers hand in.

A caller may pass anything for a name, a setting, an index or a level. Owns the
shapes that such a value can have, its kind, equality of values, truth, lookup
in mappings, and which values can serve as keys. Equality is by value across the
numeric kinds: a truth value equals the number one or zero, an integer equals
a floating-point number of the same value, and so does an object that stands for
that number. Does not own any written form; `Value.Literal` does.
-/

set_option autoImplicit false

namespace ProtectionLimits

/-- Why something has no text: the class and the message of the error that asking for the
text raises. -/
structure Unwritable where
  className : String
  message : String
deriving DecidableEq, Repr

/-- How an object of a caller behaves: the name of its class, whether it counts as true, the
number that it equals if it stands for one, and why it has no text if it has none. -/
structure Nature where
  className : String
  isTrue : Bool := true
  quantity : Option Rat := none
  unwritable : Option Unwritable := none
deriving DecidableEq, Repr, Inhabited

/-- A value of any kind. Mappings keep the order in which their keys came. An
object that the caller holds is known by its number and its nature; it comes with its
text, which says nothing where it has none. -/
inductive Value where
  | absent
  | bool (truth : Bool)
  | int (value : Int)
  | number (quantity : Number)
  | text (content : String)
  | bytes (content : List UInt8)
  | list (items : List Value)
  | tuple (items : List Value)
  | mapping (entries : List (Value × Value))
  | object (number : Nat) (nature : Nature) (written : String)
deriving Inhabited

inductive Kind where
  | absent
  | bool
  | int
  | number
  | text
  | bytes
  | list
  | tuple
  | mapping
  | object (className : String)
deriving DecidableEq, Repr

def Kind.name : Kind → String
  | absent => "NoneType"
  | bool => "bool"
  | int => "int"
  | number => "float"
  | text => "str"
  | bytes => "bytes"
  | list => "list"
  | tuple => "tuple"
  | mapping => "dict"
  | object className => className

namespace Value

def kind : Value → Kind
  | absent => .absent
  | bool _ => .bool
  | int _ => .int
  | number _ => .number
  | text _ => .text
  | bytes _ => .bytes
  | list _ => .list
  | tuple _ => .tuple
  | mapping _ => .mapping
  | object _ nature _ => .object nature.className

def integer? : Value → Option Int
  | bool truth => some (if truth then 1 else 0)
  | int integer => some integer
  | _ => none

def isQuantity (quantity : Option Rat) : Value → Bool
  | number other => quantity.any other.equalsFraction
  | other => other.integer?.any fun integer => quantity == some (integer : Rat)

/-- Equality of values that hold no other values. Objects that stand for one number are
equal, and any other object only equals itself. -/
def equalsAtom : Value → Value → Bool
  | absent, absent => true
  | text left, text right => left == right
  | bytes left, bytes right => left == right
  | object left nature _, object right other _ =>
      (left == right && nature.className == other.className) ||
        (nature.quantity.isSome && nature.quantity == other.quantity)
  | object _ nature _, right => isQuantity nature.quantity right
  | left, object _ nature _ => isQuantity nature.quantity left
  | number left, number right => left.equals right
  | number left, right => right.integer?.any left.equalsInteger
  | left, number right => left.integer?.any right.equalsInteger
  | left, right => left.integer?.isSome && left.integer? == right.integer?

mutual

/-- Equality of values. Lists equal only lists and tuples only tuples, both item
by item; mappings are equal when they have equal entries in any order. -/
def equals : Value → Value → Bool
  | list left, right => match right with
    | list items => equalsAll left items
    | _ => false
  | tuple left, right => match right with
    | tuple items => equalsAll left items
    | _ => false
  | mapping left, right => match right with
    | mapping entries => left.length == entries.length && equalsEntries left entries
    | _ => false
  | atom, right => equalsAtom atom right

/-- Equality item by item. -/
def equalsAll : List Value → List Value → Bool
  | [], [] => true
  | left :: lefts, right :: rights => equals left right && equalsAll lefts rights
  | _, _ => false

def equalsEntries : List (Value × Value) → List (Value × Value) → Bool
  | [], _ => true
  | (key, item) :: rest, entries =>
      (entries.any fun entry => equals key entry.1 && equals item entry.2) &&
        equalsEntries rest entries

end

/-- Whether the value counts as true: it is neither absent, zero, nor empty. An object says
so itself. -/
def isTrue : Value → Bool
  | absent => false
  | bool truth => truth
  | int value => value != 0
  | number quantity => quantity.isNonzero
  | text content => content != ""
  | bytes content => !content.isEmpty
  | list items => !items.isEmpty
  | tuple items => !items.isEmpty
  | mapping entries => !entries.isEmpty
  | object _ nature _ => nature.isTrue

/-! ### Order of numbers -/

def isNumeric : Value → Bool
  | number _ => true
  | other => other.integer?.isSome

def position? : Value → Option (Int × Int)
  | number quantity => quantity.position?
  | other => other.integer?.map fun integer => (0, integer * Number.stepsPerUnit)

/-- Whether a numeric value comes before another. Nothing comes before or after a
number that is not one. -/
def isBefore (left right : Value) : Bool :=
  match left.position?, right.position? with
  | some (leftSide, leftSteps), some (rightSide, rightSteps) =>
      leftSide < rightSide || (leftSide == rightSide && leftSteps < rightSteps)
  | _, _ => false

mutual

/-- The kind of the first part that keeps the value from serving as a key. Lists
and mappings cannot be keys, and a tuple can only if all its items can. -/
def unkeyable? : Value → Option Kind
  | list _ => some .list
  | mapping _ => some .mapping
  | tuple items => unkeyableAmong? items
  | _ => none

def unkeyableAmong? : List Value → Option Kind
  | [] => none
  | item :: rest => match unkeyable? item with
    | some kind => some kind
    | none => unkeyableAmong? rest

end

def lookup? {Item : Type} (key : Value) : List (Value × Item) → Option Item
  | [] => none
  | (other, item) :: rest => if equals key other then some item else lookup? key rest

/-- The entries with one more. A known key keeps its place and its first spelling and
takes the new item. -/
def insert {Item : Type} (entries : List (Value × Item)) (key : Value) (item : Item) :
    List (Value × Item) :=
  match entries with
  | [] => [(key, item)]
  | (other, old) :: rest =>
      if equals key other then (other, item) :: rest else (other, old) :: insert rest key item

def without {Item : Type} (entries : List (Value × Item)) (key : Value) : List (Value × Item) :=
  entries.filter fun entry => !equals key entry.1

/-- The mapping with the given entries, entered in order. -/
def ofEntries (entries : List (Value × Value)) : Value :=
  mapping (entries.foldl (fun entered entry => insert entered entry.1 entry.2) [])

/-! ### Small facts -/

@[simp] theorem equals_text (left right : String) :
    equals (text left) (text right) = (left == right) := by
  simp [equals, equalsAtom]

@[simp] theorem equals_int (left right : Int) :
    equals (int left) (int right) = (left == right) := by
  simp [equals, equalsAtom, integer?]

/-- A text equals nothing but the same text. -/
theorem equals_text_iff {name : String} {other : Value} :
    equals (text name) other = true ↔ other = text name := by
  constructor
  · intro agreement
    cases other <;> simp_all [equals, equalsAtom, integer?, isQuantity]
  · rintro rfl
    simp

/-! ### Looking names up -/

/-- An item is found under its own name, and entering it changes what is found under no
other name. -/
theorem lookup?_insert_text {Item : Type} (entries : List (Value × Item))
    (name other : String) (item : Item) :
    lookup? (text other) (insert entries (text name) item) =
      if other = name then some item else lookup? (text other) entries := by
  induction entries with
  | nil =>
      by_cases same : other = name
      · simp [insert, lookup?, same]
      · simp [insert, lookup?, same]
  | cons entry rest inductionHypothesis =>
      obtain ⟨key, old⟩ := entry
      by_cases isKey : equals (text name) key = true
      · rw [equals_text_iff] at isKey
        subst isKey
        by_cases same : other = name
        · simp [insert, lookup?, same]
        · simp [insert, lookup?, same]
      · by_cases same : other = name
        · subst same
          simp [insert, lookup?, isKey, inductionHypothesis]
        · simp only [insert, isKey, Bool.false_eq_true, if_false, lookup?, inductionHypothesis,
            if_neg same]

/-- Nothing is found under a name that was taken away, and all other names keep what
is under them. -/
theorem lookup?_without_text {Item : Type} (entries : List (Value × Item))
    (name other : String) :
    lookup? (text other) (without entries (text name)) =
      if other = name then none else lookup? (text other) entries := by
  induction entries with
  | nil => simp [without, lookup?]
  | cons entry rest inductionHypothesis =>
      obtain ⟨key, old⟩ := entry
      simp only [without] at inductionHypothesis
      by_cases isKey : equals (text name) key = true
      · have keyIs := equals_text_iff.1 isKey
        subst keyIs
        by_cases same : other = name
        · subst same
          simpa [without] using inductionHypothesis
        · simp [without, inductionHypothesis, lookup?, same]
      · by_cases same : other = name
        · subst same
          simp [without, lookup?, isKey, inductionHypothesis]
        · simp [without, lookup?, isKey, inductionHypothesis, same]

end Value

end ProtectionLimits

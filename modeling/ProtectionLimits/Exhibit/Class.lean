import ProtectionLimits.Exhibit.Constant

/-!
Contract: the description of a class.

Owns what is known of a class: its name and home, what it inherits from, how large its
members are, and the features that it gives to them. A class of a class is named by
`metaclass`. Does not own the classes themselves; the modules under `Exhibit.Class` do.
-/

set_option autoImplicit false

namespace ProtectionLimits

/-- How a feature is called, and what it says about itself. -/
structure Note where
  name : String
  signature : Option String
  description : String

/-- The sizes of the members of a class, and its flags: the size of one, of an item in
it, the places of what it keeps and of references to it. -/
structure Measures where
  basic : Int
  item : Int
  keeping : Int
  references : Int
  flags : Int

/-- What a function does, as far as it can be seen from outside. A name and a title that
are empty are those of the function. The source is the name of the text that the function
was read from, if that name is always the same. -/
structure Code where
  name : String := ""
  title : String := ""
  source : Option String := none
  positional : Nat
  positionalOnly : Nat := 0
  keywordOnly : Nat := 0
  flags : Nat
  line : Nat
  stack : Nat
  locals : List String := []
  names : List String := []
  constants : List Value := []
  free : List String := []
  cells : List String := []

/-- What a function is given first: its object, its class, or nothing; or it computes a
value that is not called at all. -/
inductive RoutineSort where
  | plain
  | ofClass
  | static
  | property
deriving DecidableEq, Repr

/-- A function that a class keeps under a name. An own name and a title that are empty
follow from the class and the name. An outer function stands around another one. -/
structure Routine where
  name : String
  ownName : String := ""
  title : String := ""
  home : String
  sort : RoutineSort := .plain
  description : String := ""
  code : Code
  defaults : Option (List Constant) := none
  keywordDefaults : List (String × Constant) := []
  annotations : List (String × Constant) := []
  isAbstract : Bool := false
  isOuter : Bool := false

/-- The constants of a function. What a function says about itself is the first of them,
unless the function stands around the one that says it. -/
def Routine.constants (routine : Routine) : List Value :=
  if routine.description.isEmpty || routine.isOuter then routine.code.constants
  else .text routine.description :: routine.code.constants

/-- A class: the name under which it is reported and its own one, its home, the classes
it inherits from with itself in front, those it names itself and the main one of them, the
name of its own class, what it says about itself, and its features by their sorts. The
cores are the functions inside the outer ones. -/
structure Class where
  name : String
  title : String := name
  home : String
  lineage : List String
  bases : List String
  mainBase : String := bases.headD ""
  metaclass : String := "type"
  description : String := ""
  signature : Option String := none
  measures : Measures
  abstractRoutines : Option (List String) := none
  annotations : Option (List (String × Constant)) := none
  methods : List Note := []
  operators : List String := []
  data : List Note := []
  members : List Note := []
  functions : List Note := []
  attributes : List (String × Constant) := []
  routines : List Routine := []
  cores : List Routine := []

namespace Class

/-- The class of a name that nothing is known of: a caller's. -/
def unknown (name : String) : Class where
  name := name
  home := "__main__"
  lineage := [name, "object"]
  bases := ["object"]
  measures := ⟨24, 0, -48, 16, 546320⟩
  annotations := some []

def isEnumeration (known : Class) : Bool := known.metaclass == "EnumType"

/-- The title of a class with its home in front. Classes that need no home do without it. -/
def path (shown : Class) : String :=
  if shown.home == "builtins" then shown.title else shown.home ++ "." ++ shown.title

def literal (shown : Class) : String :=
  if shown.isEnumeration then "<enum '" ++ shown.title ++ "'>"
  else if shown.metaclass == "_AnyMeta" then shown.path
  else "<class '" ++ shown.path ++ "'>"

end Class

end ProtectionLimits

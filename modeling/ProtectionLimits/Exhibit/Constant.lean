import ProtectionLimits.Text.Quoted
import ProtectionLimits.Value

/-!
Contract: what stands written in classes and in functions.

Owns the constants of a class or of a function: values, classes and features by their
names, containers of constants, and things that are known by their texts and parts.
Owns the things that annotations are made of. A class and a feature are named here and
not described, so constants can stand in the description of any class.
-/

set_option autoImplicit false

namespace ProtectionLimits

/-- What stands written in a class or in a function. -/
inductive Constant where
  | value (content : Value)
  | kind (className : String)
  | feature (owner name : String)
  | tuple (items : List Constant)
  | mapping (className : String) (entries : List (Value × Constant))
  | set (className : String) (items : List Constant)
  | shown (className literal : String) (parts : List (String × Constant))

namespace Constant

def text (content : String) : Constant := value (.text content)

def absent : Constant := value .absent

def annotationHome : Constant := text "typing"

def form (name : String) : Constant :=
  shown "_SpecialForm" ("typing." ++ name)
    [("_name", text name), ("__name__", text name), ("__qualname__", text name),
      ("__module__", annotationHome)]

/-- A place where functions and classes are at home. -/
def place (name : String) : Constant :=
  shown "module" ("<module '" ++ name ++ "'>") [("__name__", text name)]

/-- What may have one of several classes. One that has no name is called a union. -/
def union (literal : String) (name : Value) (classes : List Constant) : Constant :=
  let title := match name with
    | .absent => text "Union"
    | own => value own
  shown "_UnionGenericAlias" literal
    [("__origin__", form "Union"), ("__args__", tuple classes), ("__parameters__", tuple []),
      ("_name", value name), ("__name__", title), ("__qualname__", title),
      ("_inst", value (.bool true)), ("__slots__", absent), ("__module__", annotationHome)]

/-- A class of containers with the classes of their items. -/
def container (literal : String) (origin : Constant) (arguments : List Constant) : Constant :=
  shown "types.GenericAlias" literal
    [("__origin__", origin), ("__args__", tuple arguments), ("__parameters__", tuple []),
      ("__unpacked__", value (.bool false)), ("__typing_unpacked_tuple_args__", absent)]

/-- A general class with classes for its items, of which some are still open. It may have
a name of its own, and is called by that of the class otherwise. -/
def general (literal : String) (name : Value) (title home : String) (origin : Constant)
    (arguments openOnes : List Constant) : Constant :=
  shown "_GenericAlias" literal
    [("__origin__", origin), ("__args__", tuple arguments), ("__parameters__", tuple openOnes),
      ("_name", value name), ("__name__", text title), ("__qualname__", text title),
      ("_inst", value (.bool true)), ("__slots__", absent), ("__module__", text home)]

def forwardName (name : String) : Constant :=
  shown "ForwardRef" ("ForwardRef(" ++ Text.quoted name ++ ")")
    [("__forward_arg__", text name), ("__forward_evaluated__", value (.bool false)),
      ("__forward_value__", absent), ("__forward_is_argument__", value (.bool true)),
      ("__forward_is_class__", value (.bool false)), ("__forward_module__", absent)]

def classVariable (literal name home : String) (constraints : List Constant) : Constant :=
  shown "TypeVar" literal
    [("__name__", text name), ("__bound__", absent), ("__constraints__", tuple constraints),
      ("__covariant__", value (.bool false)), ("__contravariant__", value (.bool false)),
      ("__module__", text home)]

/-- What stands in the place of something that is left out. -/
def leftOut : Constant := shown "_MISSING_TYPE" "<dataclasses._MISSING_TYPE object>" []

/-- The sort of the fields that are set when a record is made. -/
def recordFieldSort : Constant := shown "_FIELD_BASE" "_FIELD" [("name", text "_FIELD")]

def recordField (name : String) (kind initial : Constant) : Constant :=
  shown "Field" ("Field(name='" ++ name ++ "')")
    [("name", text name), ("type", kind), ("default", initial),
      ("default_factory", leftOut), ("repr", value (.bool true)), ("hash", absent),
      ("init", value (.bool true)), ("compare", value (.bool true)),
      ("metadata", mapping "mappingproxy" []), ("kw_only", value (.bool false)),
      ("_field_type", recordFieldSort)]

end Constant

end ProtectionLimits

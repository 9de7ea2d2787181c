import ProtectionLimits.Exhibit.Class

/-!
Contract: the classes of objects, of classes and of what is absent.

Owns what these classes say about themselves and the features that they give to their
members.
-/

set_option autoImplicit false

namespace ProtectionLimits.Class

open Constant

def root : Class where
  name := "object"
  home := "builtins"
  lineage := ["object"]
  bases := []
  description :=
    "The base class of the class hierarchy.\n\nWhen called, it accepts no arguments and " ++
      "returns a new featureless\ninstance that has no instance attributes and cannot be " ++
      "given any.\n"
  signature := some "()"
  measures := ⟨16, 0, 0, 0, 529664⟩
  methods :=
    [⟨"__reduce_ex__", some "($self, protocol, /)", "Helper for pickle."⟩,
     ⟨"__reduce__", some "($self, /)", "Helper for pickle."⟩,
     ⟨"__getstate__", some "($self, /)", "Helper for pickle."⟩,
     ⟨"__format__", some "($self, format_spec, /)", "Default object formatter."⟩,
     ⟨"__sizeof__", some "($self, /)", "Size of object in memory, in bytes."⟩,
     ⟨"__dir__", some "($self, /)", "Default dir() implementation."⟩]
  functions :=
    [⟨"__new__", some "($type, *args, **kwargs)",
      "Create and return a new object.  See help(type) for accurate signature."⟩,
     ⟨"__subclasshook__", none,
      "Abstract classes can override this to customize issubclass().\n\nThis is " ++
        "invoked early on by abc.ABCMeta.__subclasscheck__().\nIt should return True, " ++
        "False or NotImplemented.  If it returns\nNotImplemented, the normal algorithm " ++
        "is used.  Otherwise, it\noverrides the normal algorithm (and the outcome is " ++
        "cached).\n"⟩,
     ⟨"__init_subclass__", none,
      "This method is called when a class is subclassed.\n\nThe default implementation " ++
        "does nothing. It may be\noverridden to extend subclasses.\n"⟩]
  operators :=
    ["__repr__", "__hash__", "__str__", "__getattribute__", "__setattr__", "__delattr__",
     "__lt__", "__le__", "__eq__", "__ne__", "__gt__", "__ge__", "__init__"]

def classes : Class where
  name := "type"
  home := "builtins"
  lineage := ["type", "object"]
  bases := ["object"]
  description :=
    "type(object) -> the object's type\ntype(name, bases, dict, **kwds) -> a new type"
  measures := ⟨904, 40, 264, 368, 2148031744⟩
  methods :=
    [⟨"mro", some "($self, /)", "Return a type's method resolution order."⟩,
     ⟨"__subclasses__", some "($self, /)", "Return a list of immediate subclasses."⟩,
     ⟨"__instancecheck__", some "($self, instance, /)", "Check if an object is an instance."⟩,
     ⟨"__subclasscheck__", some "($self, subclass, /)", "Check if a class is a subclass."⟩,
     ⟨"__dir__", some "($self, /)", "Specialized __dir__ implementation for types."⟩,
     ⟨"__sizeof__", some "($self, /)", "Return memory consumption of the type object."⟩]
  data :=
    [⟨"__name__", none, ""⟩,
     ⟨"__qualname__", none, ""⟩,
     ⟨"__bases__", none, ""⟩,
     ⟨"__abstractmethods__", none, ""⟩,
     ⟨"__dict__", none, ""⟩,
     ⟨"__doc__", none, ""⟩,
     ⟨"__text_signature__", none, ""⟩,
     ⟨"__annotations__", none, ""⟩]
  members :=
    [⟨"__basicsize__", none, ""⟩,
     ⟨"__itemsize__", none, ""⟩,
     ⟨"__flags__", none, ""⟩,
     ⟨"__weakrefoffset__", none, ""⟩,
     ⟨"__base__", none, ""⟩,
     ⟨"__dictoffset__", none, ""⟩,
     ⟨"__mro__", none, ""⟩]
  functions :=
    [⟨"__new__", some "($type, *args, **kwargs)",
      "Create and return a new object.  See help(type) for accurate signature."⟩,
     ⟨"__prepare__", none,
      "__prepare__() -> dict\nused to create the namespace for the class statement"⟩]
  operators :=
    ["__repr__", "__call__", "__getattribute__", "__setattr__", "__delattr__", "__init__",
     "__or__", "__ror__"]

def absence : Class where
  name := "NoneType"
  home := "builtins"
  lineage := ["NoneType", "object"]
  bases := ["object"]
  measures := ⟨16, 0, 0, 0, 528640⟩
  functions :=
    [⟨"__new__", some "($type, *args, **kwargs)",
      "Create and return a new object.  See help(type) for accurate signature."⟩]
  operators := ["__repr__", "__bool__"]

/-- The classes of objects, of classes and of what is absent. -/
def allObjects : List Class :=
  [root, classes, absence]

end ProtectionLimits.Class

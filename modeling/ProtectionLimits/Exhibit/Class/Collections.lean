import ProtectionLimits.Exhibit.Class

/-!
Contract: the classes of everything with items.

Owns what these classes say about themselves and the features that they give to their
members.
-/

set_option autoImplicit false

namespace ProtectionLimits.Class

open Constant

def iterables : Class where
  name := "Iterable"
  home := "collections.abc"
  lineage := ["Iterable", "object"]
  bases := ["object"]
  metaclass := "ABCMeta"
  measures := ⟨16, 0, 0, 0, 1594880⟩
  abstractRoutines := some ["__iter__"]
  annotations := some []
  attributes :=
    [("__slots__", .value (.tuple []))]
  routines :=
    [{ name := "__iter__"
       home := "collections.abc"
       code :=
         { positional := 1, flags := 35, line := 257, stack := 1, locals := ["self"],
           constants := [.absent] }
       isAbstract := true },
     { name := "__subclasshook__"
       home := "collections.abc"
       sort := .ofClass
       code :=
         { positional := 2, flags := 3, line := 262, stack := 4, locals := ["cls", "C"],
           names := ["Iterable", "_check_methods", "NotImplemented"],
           constants := [.absent, .text "__iter__"] } }]

/-- The class of everything that gives its items one by one. -/
def iterators : Class where
  name := "Iterator"
  home := "collections.abc"
  lineage := ["Iterator", "Iterable", "object"]
  bases := ["Iterable"]
  metaclass := "ABCMeta"
  measures := ⟨16, 0, 0, 0, 1594880⟩
  abstractRoutines := some ["__next__"]
  annotations := some []
  attributes :=
    [("__slots__", .value (.tuple []))]
  routines :=
    [{ name := "__next__"
       home := "collections.abc"
       description :=
         "Return the next item from the iterator. When exhausted, raise StopIteration"
       code :=
         { positional := 1, flags := 3, line := 275, stack := 1, locals := ["self"],
           names := ["StopIteration"] }
       isAbstract := true },
     { name := "__iter__"
       home := "collections.abc"
       code :=
         { positional := 1, flags := 3, line := 280, stack := 1, locals := ["self"],
           constants := [.absent] } },
     { name := "__subclasshook__"
       home := "collections.abc"
       sort := .ofClass
       code :=
         { positional := 2, flags := 3, line := 283, stack := 5, locals := ["cls", "C"],
           names := ["Iterator", "_check_methods", "NotImplemented"],
           constants := [.absent, .text "__iter__", .text "__next__"] } }]

def containers : Class where
  name := "Container"
  home := "collections.abc"
  lineage := ["Container", "object"]
  bases := ["object"]
  metaclass := "ABCMeta"
  measures := ⟨16, 0, 0, 0, 1594880⟩
  abstractRoutines := some ["__contains__"]
  annotations := some []
  attributes :=
    [("__slots__", .value (.tuple []))]
  routines :=
    [{ name := "__contains__"
       home := "collections.abc"
       code :=
         { positional := 2, flags := 3, line := 392, stack := 1, locals := ["self", "x"],
           constants := [.absent, .bool false] }
       isAbstract := true },
     { name := "__subclasshook__"
       home := "collections.abc"
       sort := .ofClass
       code :=
         { positional := 2, flags := 3, line := 396, stack := 4, locals := ["cls", "C"],
           names := ["Container", "_check_methods", "NotImplemented"],
           constants := [.absent, .text "__contains__"] } }]

def sizedThings : Class where
  name := "Sized"
  home := "collections.abc"
  lineage := ["Sized", "object"]
  bases := ["object"]
  metaclass := "ABCMeta"
  measures := ⟨16, 0, 0, 0, 1594880⟩
  abstractRoutines := some ["__len__"]
  annotations := some []
  attributes :=
    [("__slots__", .value (.tuple []))]
  routines :=
    [{ name := "__len__"
       home := "collections.abc"
       code :=
         { positional := 1, flags := 3, line := 377, stack := 1, locals := ["self"],
           constants := [.absent, .int 0] }
       isAbstract := true },
     { name := "__subclasshook__"
       home := "collections.abc"
       sort := .ofClass
       code :=
         { positional := 2, flags := 3, line := 381, stack := 4, locals := ["cls", "C"],
           names := ["Sized", "_check_methods", "NotImplemented"],
           constants := [.absent, .text "__len__"] } }]

/-- The class of everything with a size and items. -/
def collections : Class where
  name := "Collection"
  home := "collections.abc"
  lineage := ["Collection", "Sized", "Iterable", "Container", "object"]
  bases := ["Sized", "Iterable", "Container"]
  metaclass := "ABCMeta"
  measures := ⟨16, 0, 0, 0, 1594880⟩
  abstractRoutines := some ["__contains__", "__iter__", "__len__"]
  annotations := some []
  attributes :=
    [("__slots__", .value (.tuple []))]
  routines :=
    [{ name := "__subclasshook__"
       home := "collections.abc"
       sort := .ofClass
       code :=
         { positional := 2, flags := 3, line := 409, stack := 6, locals := ["cls", "C"],
           names := ["Collection", "_check_methods", "NotImplemented"],
           constants := [.absent, .text "__len__", .text "__iter__", .text "__contains__"] } }]

/-- The class of everything with items under keys. -/
def mappingPatterns : Class where
  name := "Mapping"
  home := "collections.abc"
  lineage := ["Mapping", "Collection", "Sized", "Iterable", "Container", "object"]
  bases := ["Collection"]
  metaclass := "ABCMeta"
  description :=
    "A Mapping is a generic container for associating key/value\n    pairs.\n\n    This " ++
      "class provides concrete generic implementations of all\n    methods except for " ++
      "__getitem__, __iter__, and __len__.\n    "
  measures := ⟨16, 0, 0, 0, 1594944⟩
  abstractRoutines := some ["__getitem__", "__iter__", "__len__"]
  annotations := some []
  attributes :=
    [("__slots__", .value (.tuple [])),
     ("__reversed__", .value .absent),
     ("__hash__", .value .absent)]
  routines :=
    [{ name := "__getitem__"
       home := "collections.abc"
       code :=
         { positional := 2, flags := 3, line := 767, stack := 1, locals := ["self", "key"],
           names := ["KeyError"], constants := [.absent] }
       isAbstract := true },
     { name := "get"
       home := "collections.abc"
       description := "D.get(k[,d]) -> D[k] if k in D, else d.  d defaults to None."
       code :=
         { positional := 3, flags := 3, line := 771, stack := 4,
           locals := ["self", "key", "default"], names := ["KeyError"] }
       defaults := some [.value .absent] },
     { name := "__contains__"
       home := "collections.abc"
       code :=
         { positional := 2, flags := 3, line := 778, stack := 4, locals := ["self", "key"],
           names := ["KeyError"], constants := [.absent, .bool true, .bool false] } },
     { name := "keys"
       home := "collections.abc"
       description := "D.keys() -> a set-like object providing a view on D's keys"
       code :=
         { positional := 1, flags := 3, line := 786, stack := 3, locals := ["self"],
           names := ["KeysView"] } },
     { name := "items"
       home := "collections.abc"
       description := "D.items() -> a set-like object providing a view on D's items"
       code :=
         { positional := 1, flags := 3, line := 790, stack := 3, locals := ["self"],
           names := ["ItemsView"] } },
     { name := "values"
       home := "collections.abc"
       description := "D.values() -> an object providing a view on D's values"
       code :=
         { positional := 1, flags := 3, line := 794, stack := 3, locals := ["self"],
           names := ["ValuesView"] } },
     { name := "__eq__"
       home := "collections.abc"
       code :=
         { positional := 2, flags := 3, line := 798, stack := 5, locals := ["self", "other"],
           names := ["isinstance", "Mapping", "NotImplemented", "dict", "items"],
           constants := [.absent] } }]

/-- The class of everything with items under keys that can change. -/
def changeableMappings : Class where
  name := "MutableMapping"
  home := "collections.abc"
  lineage :=
    ["MutableMapping", "Mapping", "Collection", "Sized", "Iterable", "Container", "object"]
  bases := ["Mapping"]
  metaclass := "ABCMeta"
  description :=
    "A MutableMapping is a generic container for associating\n    key/value pairs.\n\n   " ++
      " This class provides concrete generic implementations of all\n    methods except " ++
      "for __getitem__, __setitem__, __delitem__,\n    __iter__, and __len__.\n    "
  measures := ⟨16, 0, 0, 0, 1594944⟩
  abstractRoutines := some ["__delitem__", "__getitem__", "__iter__", "__len__", "__setitem__"]
  annotations := some []
  attributes :=
    [("__slots__", .value (.tuple []))]
  routines :=
    [{ name := "__setitem__"
       home := "collections.abc"
       code :=
         { positional := 3, flags := 3, line := 897, stack := 1,
           locals := ["self", "key", "value"], names := ["KeyError"], constants := [.absent] }
       isAbstract := true },
     { name := "__delitem__"
       home := "collections.abc"
       code :=
         { positional := 2, flags := 3, line := 901, stack := 1, locals := ["self", "key"],
           names := ["KeyError"], constants := [.absent] }
       isAbstract := true },
     { name := "pop"
       home := "collections.abc"
       description :=
         "D.pop(k[,d]) -> v, remove specified key and return the corresponding value.\n  " ++
           "        If key is not found, d is returned if given, otherwise KeyError is " ++
           "raised.\n        "
       code :=
         { positional := 3, flags := 3, line := 907, stack := 4,
           locals := ["self", "key", "default", "value"],
           names := ["KeyError", "_MutableMapping__marker"] } },
     { name := "popitem"
       home := "collections.abc"
       description :=
         "D.popitem() -> (k, v), remove and return some (key, value) pair\n           as " ++
           "a 2-tuple; but raise KeyError if D is empty.\n        "
       code :=
         { positional := 1, flags := 3, line := 921, stack := 5,
           locals := ["self", "key", "value"],
           names := ["next", "iter", "StopIteration", "KeyError"], constants := [.absent] } },
     { name := "clear"
       home := "collections.abc"
       description := "D.clear() -> None.  Remove all items from D."
       code :=
         { positional := 1, flags := 3, line := 933, stack := 4, locals := ["self"],
           names := ["popitem", "KeyError"], constants := [.bool true, .absent] } },
     { name := "update"
       home := "collections.abc"
       description :=
         " D.update([E, ]**F) -> None.  Update D from mapping/iterable E and F.\n        " ++
           "    If E present and has a .keys() method, does:     for k in E: D[k] = E[k]\n " ++
           "           If E present and lacks .keys() method, does:     for (k, v) in E: " ++
           "D[k] = v\n            In either case, this is followed by: for k, v in " ++
           "F.items(): D[k] = v\n        "
       code :=
         { positional := 2, positionalOnly := 2, flags := 11, line := 941, stack := 4,
           locals := ["self", "other", "kwds", "key", "value"],
           names := ["isinstance", "Mapping", "hasattr", "keys", "items"],
           constants := [.text "keys", .absent] }
       defaults := some [.value (.tuple [])] },
     { name := "setdefault"
       home := "collections.abc"
       description := "D.setdefault(k[,d]) -> D.get(k,d), also set D[k]=d if k not in D"
       code :=
         { positional := 3, flags := 3, line := 959, stack := 4,
           locals := ["self", "key", "default"], names := ["KeyError"] }
       defaults := some [.value .absent] }]

def environments : Class where
  name := "_Environ"
  home := "os"
  lineage :=
    ["_Environ", "MutableMapping", "Mapping", "Collection", "Sized", "Iterable", "Container",
     "object"]
  bases := ["MutableMapping"]
  metaclass := "ABCMeta"
  measures := ⟨24, 0, -48, 16, 546384⟩
  abstractRoutines := some []
  annotations := some []
  data :=
    [⟨"__dict__", none, "dictionary for instance variables"⟩,
     ⟨"__weakref__", none, "list of weak references to the object"⟩]
  routines :=
    [{ name := "__init__"
       home := "os"
       code :=
         { positional := 6, flags := 3, line := 667, stack := 2,
           locals := ["self", "data", "encodekey", "decodekey", "encodevalue", "decodevalue"],
           names := ["encodekey", "decodekey", "encodevalue", "decodevalue", "_data"],
           constants := [.absent] } },
     { name := "__getitem__"
       home := "os"
       code :=
         { positional := 2, flags := 3, line := 674, stack := 4,
           locals := ["self", "key", "value"],
           names := ["_data", "encodekey", "KeyError", "decodevalue"],
           constants := [.absent] } },
     { name := "__setitem__"
       home := "os"
       code :=
         { positional := 3, flags := 3, line := 682, stack := 4,
           locals := ["self", "key", "value"],
           names := ["encodekey", "encodevalue", "putenv", "_data"], constants := [.absent] } },
     { name := "__delitem__"
       home := "os"
       code :=
         { positional := 2, flags := 3, line := 688, stack := 4,
           locals := ["self", "key", "encodedkey"],
           names := ["encodekey", "unsetenv", "_data", "KeyError"], constants := [.absent] } },
     { name := "__iter__"
       home := "os"
       code :=
         { positional := 1, flags := 35, line := 697, stack := 4,
           locals := ["self", "keys", "key"], names := ["list", "_data", "decodekey"],
           constants := [.absent] } },
     { name := "__len__"
       home := "os"
       code :=
         { positional := 1, flags := 3, line := 703, stack := 3, locals := ["self"],
           names := ["len", "_data"], constants := [.absent] } },
     { name := "__repr__"
       home := "os"
       code :=
         { positional := 1, flags := 3, line := 706, stack := 5,
           locals := ["self", "formatted_items"], names := ["join", "_data", "items"],
           cells := ["self"],
           constants := [.absent, .text ", ", .absent, .text "environ(\x7b", .text "\x7d)"] } },
     { name := "copy"
       home := "os"
       code :=
         { positional := 1, flags := 3, line := 713, stack := 3, locals := ["self"],
           names := ["dict"], constants := [.absent] } },
     { name := "setdefault"
       home := "os"
       code :=
         { positional := 3, flags := 3, line := 716, stack := 3,
           locals := ["self", "key", "value"], constants := [.absent] } },
     { name := "__ior__"
       home := "os"
       code :=
         { positional := 2, flags := 3, line := 721, stack := 3, locals := ["self", "other"],
           names := ["update"], constants := [.absent] } },
     { name := "__or__"
       home := "os"
       code :=
         { positional := 2, flags := 3, line := 725, stack := 4,
           locals := ["self", "other", "new"],
           names := ["isinstance", "Mapping", "NotImplemented", "dict", "update"],
           constants := [.absent] } },
     { name := "__ror__"
       home := "os"
       code :=
         { positional := 2, flags := 3, line := 732, stack := 4,
           locals := ["self", "other", "new"],
           names := ["isinstance", "Mapping", "NotImplemented", "dict", "update"],
           constants := [.absent] } }]

/-- The classes of everything with items. -/
def allCollections : List Class :=
  [iterables, iterators, containers, sizedThings, collections, mappingPatterns,
    changeableMappings, environments]

end ProtectionLimits.Class

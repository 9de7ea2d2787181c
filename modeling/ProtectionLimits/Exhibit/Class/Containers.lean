import ProtectionLimits.Exhibit.Class

/-!
Contract: the classes of containers.

Owns what these classes say about themselves and the features that they give to their
members.
-/

set_option autoImplicit false

namespace ProtectionLimits.Class

open Constant

def lists : Class where
  name := "list"
  home := "builtins"
  lineage := ["list", "object"]
  bases := ["object"]
  description :=
    "Built-in mutable sequence.\n\nIf no argument is given, the constructor creates a " ++
      "new empty list.\nThe argument must be an iterable if specified."
  signature := some "(iterable=(), /)"
  measures := ⟨40, 0, 0, 0, 38294816⟩
  methods :=
    [⟨"__getitem__", none, "x.__getitem__(y) <==> x[y]"⟩,
     ⟨"__reversed__", some "($self, /)", "Return a reverse iterator over the list."⟩,
     ⟨"__sizeof__", some "($self, /)", "Return the size of the list in memory, in bytes."⟩,
     ⟨"clear", some "($self, /)", "Remove all items from list."⟩,
     ⟨"copy", some "($self, /)", "Return a shallow copy of the list."⟩,
     ⟨"append", some "($self, object, /)", "Append object to the end of the list."⟩,
     ⟨"insert", some "($self, index, object, /)", "Insert object before index."⟩,
     ⟨"extend", some "($self, iterable, /)",
      "Extend list by appending elements from the iterable."⟩,
     ⟨"pop", some "($self, index=-1, /)",
      "Remove and return item at index (default last).\n\nRaises IndexError if list is " ++
        "empty or index is out of range."⟩,
     ⟨"remove", some "($self, value, /)",
      "Remove first occurrence of value.\n\nRaises ValueError if the value is not present."⟩,
     ⟨"index", some "($self, value, start=0, stop=sys.maxsize, /)",
      "Return first index of value.\n\nRaises ValueError if the value is not present."⟩,
     ⟨"count", some "($self, value, /)", "Return number of occurrences of value."⟩,
     ⟨"reverse", some "($self, /)", "Reverse *IN PLACE*."⟩,
     ⟨"sort", some "($self, /, *, key=None, reverse=False)",
      "Sort the list in ascending order and return None.\n\nThe sort is in-place (i.e. " ++
        "the list itself is modified) and stable (i.e. the\norder of two equal elements " ++
        "is maintained).\n\nIf a key function is given, apply it once to each list item " ++
        "and sort them,\nascending or descending, according to their function values.\n\n" ++
        "The reverse flag can be set to sort in descending order."⟩]
  functions :=
    [⟨"__new__", some "($type, *args, **kwargs)",
      "Create and return a new object.  See help(type) for accurate signature."⟩,
     ⟨"__class_getitem__", none, "See PEP 585"⟩]
  operators :=
    ["__repr__", "__getattribute__", "__lt__", "__le__", "__eq__", "__ne__", "__gt__", "__ge__",
     "__iter__", "__init__", "__len__", "__setitem__", "__delitem__", "__add__", "__mul__",
     "__rmul__", "__contains__", "__iadd__", "__imul__"]
  attributes :=
    [("__hash__", .value .absent)]

def tuples : Class where
  name := "tuple"
  home := "builtins"
  lineage := ["tuple", "object"]
  bases := ["object"]
  description :=
    "Built-in immutable sequence.\n\nIf no argument is given, the constructor returns an " ++
      "empty tuple.\nIf iterable is specified the tuple is initialized from iterable's " ++
      "items.\n\nIf the argument is a tuple, the return value is the same object."
  signature := some "(iterable=(), /)"
  measures := ⟨24, 8, 0, 0, 71849248⟩
  methods :=
    [⟨"__getnewargs__", some "($self, /)", ""⟩,
     ⟨"index", some "($self, value, start=0, stop=sys.maxsize, /)",
      "Return first index of value.\n\nRaises ValueError if the value is not present."⟩,
     ⟨"count", some "($self, value, /)", "Return number of occurrences of value."⟩]
  functions :=
    [⟨"__new__", some "($type, *args, **kwargs)",
      "Create and return a new object.  See help(type) for accurate signature."⟩,
     ⟨"__class_getitem__", none, "See PEP 585"⟩]
  operators :=
    ["__repr__", "__hash__", "__getattribute__", "__lt__", "__le__", "__eq__", "__ne__",
     "__gt__", "__ge__", "__iter__", "__len__", "__getitem__", "__add__", "__mul__", "__rmul__",
     "__contains__"]

def mappings : Class where
  name := "dict"
  home := "builtins"
  lineage := ["dict", "object"]
  bases := ["object"]
  description :=
    "dict() -> new empty dictionary\ndict(mapping) -> new dictionary initialized from a " ++
      "mapping object's\n    (key, value) pairs\ndict(iterable) -> new dictionary " ++
      "initialized as if via:\n    d = \x7b\x7d\n    for k, v in iterable:\n        d[k] = " ++
      "v\ndict(**kwargs) -> new dictionary initialized with the name=value pairs\n    in " ++
      "the keyword argument list.  For example:  dict(one=1, two=2)"
  measures := ⟨48, 0, 0, 0, 541611328⟩
  methods :=
    [⟨"__getitem__", none, "x.__getitem__(y) <==> x[y]"⟩,
     ⟨"__contains__", some "($self, key, /)",
      "True if the dictionary has the specified key, else False."⟩,
     ⟨"__sizeof__", none, "D.__sizeof__() -> size of D in memory, in bytes"⟩,
     ⟨"get", some "($self, key, default=None, /)",
      "Return the value for key if key is in the dictionary, else default."⟩,
     ⟨"setdefault", some "($self, key, default=None, /)",
      "Insert key with a value of default if key is not in the dictionary.\n\nReturn " ++
        "the value for key if key is in the dictionary, else default."⟩,
     ⟨"pop", some "($self, key, default=<unrepresentable>, /)",
      "D.pop(k[,d]) -> v, remove specified key and return the corresponding value.\n\n" ++
        "If the key is not found, return the default if given; otherwise,\nraise a " ++
        "KeyError."⟩,
     ⟨"popitem", some "($self, /)",
      "Remove and return a (key, value) pair as a 2-tuple.\n\nPairs are returned in " ++
        "LIFO (last-in, first-out) order.\nRaises KeyError if the dict is empty."⟩,
     ⟨"keys", none, "D.keys() -> a set-like object providing a view on D's keys"⟩,
     ⟨"items", none, "D.items() -> a set-like object providing a view on D's items"⟩,
     ⟨"values", none, "D.values() -> an object providing a view on D's values"⟩,
     ⟨"update", none,
      "D.update([E, ]**F) -> None.  Update D from dict/iterable E and F.\nIf E is " ++
        "present and has a .keys() method, then does:  for k in E: D[k] = E[k]\nIf E is " ++
        "present and lacks a .keys() method, then does:  for k, v in E: D[k] = v\nIn " ++
        "either case, this is followed by: for k in F:  D[k] = F[k]"⟩,
     ⟨"clear", none, "D.clear() -> None.  Remove all items from D."⟩,
     ⟨"copy", none, "D.copy() -> a shallow copy of D"⟩,
     ⟨"__reversed__", some "($self, /)", "Return a reverse iterator over the dict keys."⟩]
  functions :=
    [⟨"__new__", some "($type, *args, **kwargs)",
      "Create and return a new object.  See help(type) for accurate signature."⟩,
     ⟨"fromkeys", some "($type, iterable, value=None, /)",
      "Create a new dictionary with keys from iterable and values set to value."⟩,
     ⟨"__class_getitem__", none, "See PEP 585"⟩]
  operators :=
    ["__repr__", "__getattribute__", "__lt__", "__le__", "__eq__", "__ne__", "__gt__", "__ge__",
     "__iter__", "__init__", "__or__", "__ror__", "__ior__", "__len__", "__setitem__",
     "__delitem__"]
  attributes :=
    [("__hash__", .value .absent)]

def sets : Class where
  name := "set"
  home := "builtins"
  lineage := ["set", "object"]
  bases := ["object"]
  description :=
    "set() -> new empty set object\nset(iterable) -> new set object\n\nBuild an " ++
      "unordered collection of unique elements."
  measures := ⟨200, 0, 0, 192, 4740352⟩
  methods :=
    [⟨"__contains__", none, "x.__contains__(y) <==> y in x."⟩,
     ⟨"add", none,
      "Add an element to a set.\n\nThis has no effect if the element is already present."⟩,
     ⟨"clear", none, "Remove all elements from this set."⟩,
     ⟨"copy", none, "Return a shallow copy of a set."⟩,
     ⟨"discard", none,
      "Remove an element from a set if it is a member.\n\nUnlike set.remove(), the " ++
        "discard() method does not raise\nan exception when an element is missing from " ++
        "the set."⟩,
     ⟨"difference", none,
      "Return the difference of two or more sets as a new set.\n\n(i.e. all elements " ++
        "that are in this set but not the others.)"⟩,
     ⟨"difference_update", none, "Remove all elements of another set from this set."⟩,
     ⟨"intersection", none,
      "Return the intersection of two sets as a new set.\n\n(i.e. all elements that " ++
        "are in both sets.)"⟩,
     ⟨"intersection_update", none, "Update a set with the intersection of itself and another."⟩,
     ⟨"isdisjoint", none, "Return True if two sets have a null intersection."⟩,
     ⟨"issubset", some "($self, other, /)",
      "Test whether every element in the set is in other."⟩,
     ⟨"issuperset", some "($self, other, /)",
      "Test whether every element in other is in the set."⟩,
     ⟨"pop", none,
      "Remove and return an arbitrary set element.\nRaises KeyError if the set is empty."⟩,
     ⟨"__reduce__", none, "Return state information for pickling."⟩,
     ⟨"remove", none,
      "Remove an element from a set; it must be a member.\n\nIf the element is not a " ++
        "member, raise a KeyError."⟩,
     ⟨"__sizeof__", none, "S.__sizeof__() -> size of S in memory, in bytes"⟩,
     ⟨"symmetric_difference", none,
      "Return the symmetric difference of two sets as a new set.\n\n(i.e. all elements " ++
        "that are in exactly one of the sets.)"⟩,
     ⟨"symmetric_difference_update", none,
      "Update a set with the symmetric difference of itself and another."⟩,
     ⟨"union", none,
      "Return the union of sets as a new set.\n\n(i.e. all elements that are in either set.)"⟩,
     ⟨"update", none, "Update a set with the union of itself and others."⟩]
  functions :=
    [⟨"__new__", some "($type, *args, **kwargs)",
      "Create and return a new object.  See help(type) for accurate signature."⟩,
     ⟨"__class_getitem__", none, "See PEP 585"⟩]
  operators :=
    ["__repr__", "__getattribute__", "__lt__", "__le__", "__eq__", "__ne__", "__gt__", "__ge__",
     "__iter__", "__init__", "__sub__", "__rsub__", "__and__", "__rand__", "__xor__", "__rxor__",
     "__or__", "__ror__", "__isub__", "__iand__", "__ixor__", "__ior__", "__len__"]
  attributes :=
    [("__hash__", .value .absent)]

def fixedSets : Class where
  name := "frozenset"
  home := "builtins"
  lineage := ["frozenset", "object"]
  bases := ["object"]
  description :=
    "frozenset() -> empty frozenset object\nfrozenset(iterable) -> frozenset object\n\n" ++
      "Build an immutable unordered collection of unique elements."
  measures := ⟨200, 0, 0, 192, 4740352⟩
  methods :=
    [⟨"__contains__", none, "x.__contains__(y) <==> y in x."⟩,
     ⟨"copy", none, "Return a shallow copy of a set."⟩,
     ⟨"difference", none,
      "Return the difference of two or more sets as a new set.\n\n(i.e. all elements " ++
        "that are in this set but not the others.)"⟩,
     ⟨"intersection", none,
      "Return the intersection of two sets as a new set.\n\n(i.e. all elements that " ++
        "are in both sets.)"⟩,
     ⟨"isdisjoint", none, "Return True if two sets have a null intersection."⟩,
     ⟨"issubset", some "($self, other, /)",
      "Test whether every element in the set is in other."⟩,
     ⟨"issuperset", some "($self, other, /)",
      "Test whether every element in other is in the set."⟩,
     ⟨"__reduce__", none, "Return state information for pickling."⟩,
     ⟨"__sizeof__", none, "S.__sizeof__() -> size of S in memory, in bytes"⟩,
     ⟨"symmetric_difference", none,
      "Return the symmetric difference of two sets as a new set.\n\n(i.e. all elements " ++
        "that are in exactly one of the sets.)"⟩,
     ⟨"union", none,
      "Return the union of sets as a new set.\n\n(i.e. all elements that are in either set.)"⟩]
  functions :=
    [⟨"__new__", some "($type, *args, **kwargs)",
      "Create and return a new object.  See help(type) for accurate signature."⟩,
     ⟨"__class_getitem__", none, "See PEP 585"⟩]
  operators :=
    ["__repr__", "__hash__", "__getattribute__", "__lt__", "__le__", "__eq__", "__ne__",
     "__gt__", "__ge__", "__iter__", "__sub__", "__rsub__", "__and__", "__rand__", "__xor__",
     "__rxor__", "__or__", "__ror__", "__len__"]

def mappingViews : Class where
  name := "mappingproxy"
  home := "builtins"
  lineage := ["mappingproxy", "object"]
  bases := ["object"]
  measures := ⟨24, 0, 0, 0, 545088⟩
  methods :=
    [⟨"get", none, "D.get(k[,d]) -> D[k] if k in D, else d.  d defaults to None."⟩,
     ⟨"keys", none, "D.keys() -> a set-like object providing a view on D's keys"⟩,
     ⟨"values", none, "D.values() -> an object providing a view on D's values"⟩,
     ⟨"items", none, "D.items() -> a set-like object providing a view on D's items"⟩,
     ⟨"copy", none, "D.copy() -> a shallow copy of D"⟩,
     ⟨"__reversed__", none, "D.__reversed__() -> reverse iterator"⟩]
  functions :=
    [⟨"__new__", some "($type, *args, **kwargs)",
      "Create and return a new object.  See help(type) for accurate signature."⟩,
     ⟨"__class_getitem__", none, "See PEP 585"⟩]
  operators :=
    ["__repr__", "__str__", "__getattribute__", "__lt__", "__le__", "__eq__", "__ne__", "__gt__",
     "__ge__", "__iter__", "__or__", "__ror__", "__ior__", "__len__", "__getitem__",
     "__contains__"]
  attributes :=
    [("__hash__", .value .absent)]

/-- The class of classes of containers with the classes of their items. -/
def parametrics : Class where
  name := "types.GenericAlias"
  title := "GenericAlias"
  home := "types"
  lineage := ["types.GenericAlias", "object"]
  bases := ["object"]
  description :=
    "Represent a PEP 585 generic type\n\nE.g. for t = list[int], t.__origin__ is list " ++
      "and t.__args__ is (int,)."
  measures := ⟨64, 0, 0, 40, 548096⟩
  methods :=
    [⟨"__dir__", none, ""⟩,
     ⟨"__instancecheck__", none, ""⟩,
     ⟨"__mro_entries__", none, ""⟩,
     ⟨"__reduce__", none, ""⟩,
     ⟨"__subclasscheck__", none, ""⟩]
  data :=
    [⟨"__parameters__", none, "Type variables in the GenericAlias."⟩,
     ⟨"__typing_unpacked_tuple_args__", none, ""⟩]
  members :=
    [⟨"__args__", none, ""⟩,
     ⟨"__origin__", none, ""⟩,
     ⟨"__unpacked__", none, ""⟩]
  functions :=
    [⟨"__new__", some "($type, *args, **kwargs)",
      "Create and return a new object.  See help(type) for accurate signature."⟩]
  operators :=
    ["__call__", "__eq__", "__ge__", "__getattribute__", "__getitem__", "__gt__", "__hash__",
     "__iter__", "__le__", "__lt__", "__ne__", "__or__", "__repr__", "__ror__"]

def allContainers : List Class :=
  [lists, tuples, mappings, sets, fixedSets, mappingViews, parametrics]

end ProtectionLimits.Class

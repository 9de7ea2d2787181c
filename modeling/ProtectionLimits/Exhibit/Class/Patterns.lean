import ProtectionLimits.Exhibit.Class

/-!
Contract: the classes that are patterns for other classes.

Owns what these classes say about themselves and the features that they give to their
members.
-/

set_option autoImplicit false

namespace ProtectionLimits.Class

open Constant

def abstractClasses : Class where
  name := "ABCMeta"
  home := "abc"
  lineage := ["ABCMeta", "type", "object"]
  bases := ["type"]
  description :=
    "Metaclass for defining Abstract Base Classes (ABCs).\n\n        Use this metaclass " ++
      "to create an ABC.  An ABC can be subclassed\n        directly, and then acts as a " ++
      "mix-in class.  You can also register\n        unrelated concrete classes (even " ++
      "built-in classes) and unrelated\n        ABCs as 'virtual subclasses' -- these and " ++
      "their descendants will\n        be considered subclasses of the registering ABC by " ++
      "the built-in\n        issubclass() function, but the registering ABC won't show up " ++
      "in\n        their MRO (Method Resolution Order) nor will method\n        " ++
      "implementations defined by the registering ABC be callable (not\n        even via " ++
      "super()).\n        "
  measures := ⟨904, 40, 264, 368, 2148029952⟩
  annotations := some []
  routines :=
    [{ name := "__new__"
       home := "abc"
       sort := .static
       code :=
         { positional := 4, positionalOnly := 4, flags := 11, line := 105, stack := 6,
           locals := ["mcls", "name", "bases", "namespace", "kwargs", "cls"],
           names := ["super", "__new__", "_abc_init"], free := ["__class__"],
           constants := [.absent] } },
     { name := "register"
       home := "abc"
       description :=
         "Register a virtual subclass of an ABC.\n\n            Returns the subclass, to " ++
           "allow usage as a class decorator.\n            "
       code :=
         { positional := 2, flags := 3, line := 110, stack := 4, locals := ["cls", "subclass"],
           names := ["_abc_register"] } },
     { name := "__instancecheck__"
       home := "abc"
       description := "Override for isinstance(instance, cls)."
       code :=
         { positional := 2, flags := 3, line := 117, stack := 4, locals := ["cls", "instance"],
           names := ["_abc_instancecheck"] } },
     { name := "__subclasscheck__"
       home := "abc"
       description := "Override for issubclass(subclass, cls)."
       code :=
         { positional := 2, flags := 3, line := 121, stack := 4, locals := ["cls", "subclass"],
           names := ["_abc_subclasscheck"] } },
     { name := "_dump_registry"
       home := "abc"
       description := "Debug helper to print the ABC registry."
       code :=
         { positional := 2, flags := 3, line := 125, stack := 6,
           locals :=
             ["cls", "file", "_abc_registry", "_abc_cache", "_abc_negative_cache",
              "_abc_negative_cache_version"],
           names := ["print", "__module__", "__qualname__", "get_cache_token", "_get_dump"],
           constants :=
             [.text "Class: ", .text ".", .tuple [.text "file"], .text "Inv. counter: ",
              .text "_abc_registry: ", .text "_abc_cache: ", .text "_abc_negative_cache: ",
              .text "_abc_negative_cache_version: ", .absent] }
       defaults := some [.value .absent] },
     { name := "_abc_registry_clear"
       home := "abc"
       description := "Clear the registry (for debugging or testing)."
       code :=
         { positional := 1, flags := 3, line := 137, stack := 3, locals := ["cls"],
           names := ["_reset_registry"], constants := [.absent] } },
     { name := "_abc_caches_clear"
       home := "abc"
       description := "Clear the caches (for debugging or testing)."
       code :=
         { positional := 1, flags := 3, line := 141, stack := 3, locals := ["cls"],
           names := ["_reset_caches"], constants := [.absent] } }]

/-- The class of everything that takes other classes. -/
def generics : Class where
  name := "Generic"
  home := "typing"
  lineage := ["Generic", "object"]
  bases := ["object"]
  description :=
    "Abstract base class for generic types.\n\n    A generic type is typically declared " ++
      "by inheriting from\n    this class parameterized with one or more type variables.\n " ++
      "   For example, a generic mapping type might be defined as::\n\n      class " ++
      "Mapping(Generic[KT, VT]):\n          def __getitem__(self, key: KT) -> VT:\n        " ++
      "      ...\n          # Etc.\n\n    This class can then be used as follows::\n\n     " ++
      " def lookup_name(mapping: Mapping[KT, VT], key: KT, default: VT) -> VT:\n          " ++
      "try:\n              return mapping[key]\n          except KeyError:\n              " ++
      "return default\n    "
  measures := ⟨16, 0, 0, 0, 546304⟩
  annotations := some []
  attributes :=
    [("__slots__", .value (.tuple [])),
     ("_is_protocol", .value (.bool false))]
  routines :=
    [{ name := "__class_getitem__"
       home := "typing"
       sort := .ofClass
       description :=
         "Parameterizes a generic class.\n\n        At least, parameterizing a generic " ++
           "class is the *main* thing this method\n        does. For example, for some " ++
           "generic class `Foo`, this is called when we\n        do `Foo[int]` - there, " ++
           "with `cls=Foo` and `params=int`.\n\n        However, note that this method is " ++
           "also called when defining generic\n        classes in the first place with " ++
           "`class Foo(Generic[T]): ...`.\n        "
       code :=
         { name := "inner", title := "_tp_cache.<locals>.decorator.<locals>.inner",
           positional := 0, flags := 31, line := 373, stack := 5, locals := ["args", "kwds"],
           names := ["TypeError"], free := ["cached", "func"], constants := [.absent] }
       isOuter := true },
     { name := "__init_subclass__"
       home := "typing"
       sort := .ofClass
       code :=
         { positional := 1, flags := 15, line := 1877, stack := 7,
           locals :=
             ["cls", "args", "kwargs", "tvars", "error", "gvars", "base", "tvarset", "s_vars",
              "s_args"],
           names :=
             ["super", "__init_subclass__", "__dict__", "Generic", "__orig_bases__", "__bases__",
              "__name__", "type", "_TypedDictMeta", "TypeError", "_collect_parameters",
              "isinstance", "_GenericAlias", "__origin__", "__parameters__", "set", "join",
              "tuple"],
           free := ["__class__"], cells := ["gvarset"],
           constants :=
             [.absent, .text "__orig_bases__", .text "Protocol",
              .text "Cannot inherit from plain Generic",
              .text "Cannot inherit from Generic[...] multiple times.", .text ", ", .absent,
              .absent, .text "Some type variables (", .text ") are not listed in Generic[",
              .text "]"] } }]
  cores :=
    [{ name := "__class_getitem__"
       home := "typing"
       sort := .ofClass
       description :=
         "Parameterizes a generic class.\n\n        At least, parameterizing a generic " ++
           "class is the *main* thing this method\n        does. For example, for some " ++
           "generic class `Foo`, this is called when we\n        do `Foo[int]` - there, " ++
           "with `cls=Foo` and `params=int`.\n\n        However, note that this method is " ++
           "also called when defining generic\n        classes in the first place with " ++
           "`class Foo(Generic[T]): ...`.\n        "
       code :=
         { positional := 2, flags := 3, line := 1830, stack := 7,
           locals := ["cls", "params", "param", "prepare", "new_args", "new_arg"],
           names :=
             ["isinstance", "tuple", "Generic", "Protocol", "TypeError", "__qualname__", "all",
              "__name__", "len", "set", "__parameters__", "getattr", "_check_generic", "zip",
              "TypeVarTuple", "extend", "append", "_GenericAlias"],
           constants :=
             [.absent, .text "Parameter list to ", .text "[...] cannot be empty", .absent,
              .text "Parameters to ",
              .text "[...] must all be type variables or parameter specification variables.",
              .text "[...] must all be unique", .text "__typing_prepare_subst__", .absent,
              .bool true, .tuple [.text "_paramspec_tvars"]] } }]

def protocols : Class where
  name := "Protocol"
  home := "typing"
  lineage := ["Protocol", "Generic", "object"]
  bases := ["Generic"]
  metaclass := "_ProtocolMeta"
  description :=
    "Base class for protocol classes.\n\n    Protocol classes are defined as::\n\n       " ++
      " class Proto(Protocol):\n            def meth(self) -> int:\n                ...\n\n" ++
      "    Such classes are primarily used with static type checkers that recognize\n    " ++
      "structural subtyping (static duck-typing).\n\n    For example::\n\n        class " ++
      "C:\n            def meth(self) -> int:\n                return 0\n\n        def " ++
      "func(x: Proto) -> int:\n            return x.meth()\n\n        func(C())  # Passes " ++
      "static type check\n\n    See PEP 544 for details. Protocol classes decorated with\n " ++
      "   @typing.runtime_checkable act as simple-minded runtime protocols that check\n    " ++
      "only the presence of given attributes, ignoring their type signatures.\n    " ++
      "Protocol classes can be generic, they are defined as::\n\n        class " ++
      "GenProto(Protocol[T]):\n            def meth(self) -> T:\n                ...\n    "
  measures := ⟨16, 0, 0, 0, 546304⟩
  abstractRoutines := some []
  annotations := some []
  attributes :=
    [("__slots__", .value (.tuple [])),
     ("_is_protocol", .value (.bool true)),
     ("_is_runtime_protocol", .value (.bool false)),
     ("__parameters__", .value (.tuple []))]
  routines :=
    [{ name := "__init_subclass__"
       home := "typing"
       sort := .ofClass
       code :=
         { positional := 1, flags := 15, line := 2071, stack := 5,
           locals := ["cls", "args", "kwargs", "_proto_hook", "base"],
           names :=
             ["super", "__init_subclass__", "__dict__", "get", "any", "__bases__",
              "_is_protocol", "__subclasshook__", "object", "Generic", "__module__",
              "_PROTO_ALLOWLIST", "__name__", "issubclass", "TypeError", "__init__", "Protocol",
              "_no_init_or_replace_init"],
           free := ["__class__"], cells := ["cls"],
           constants :=
             [.absent, .text "_is_protocol", .bool false, .absent, .absent,
              .text "__subclasshook__",
              .text "Protocols can only inherit from other protocols, got %r"] } }]

def protocolClasses : Class where
  name := "_ProtocolMeta"
  home := "typing"
  lineage := ["_ProtocolMeta", "ABCMeta", "type", "object"]
  bases := ["ABCMeta"]
  measures := ⟨904, 40, 264, 368, 2148029952⟩
  annotations := some []

def classVariables : Class where
  name := "TypeVar"
  home := "typing"
  lineage :=
    ["TypeVar", "_Final", "_Immutable", "_BoundVarianceMixin", "_PickleUsingNameMixin", "object"]
  bases := ["_Final", "_Immutable", "_BoundVarianceMixin", "_PickleUsingNameMixin"]
  description :=
    "Type variable.\n\n    Usage::\n\n      T = TypeVar('T')  # Can be anything\n      A " ++
      "= TypeVar('A', str, bytes)  # Must be str or bytes\n\n    Type variables exist " ++
      "primarily for the benefit of static type\n    checkers.  They serve as the " ++
      "parameters for generic types as well\n    as for generic function definitions.  See " ++
      "class Generic for more\n    information on generic types.  Generic functions work " ++
      "as follows:\n\n      def repeat(x: T, n: int) -> List[T]:\n          '''Return a " ++
      "list containing n references to x.'''\n          return [x]*n\n\n      def " ++
      "longest(x: A, y: A) -> A:\n          '''Return the longest of two strings.'''\n     " ++
      "     return x if len(x) >= len(y) else y\n\n    The latter example's signature is " ++
      "essentially the overloading\n    of (str, str) -> str and (bytes, bytes) -> bytes.  " ++
      "Also note\n    that if the arguments are instances of some subclass of str,\n    " ++
      "the return type is still plain str.\n\n    At runtime, isinstance(x, T) and " ++
      "issubclass(C, T) will raise TypeError.\n\n    Type variables defined with " ++
      "covariant=True or contravariant=True\n    can be used to declare covariant or " ++
      "contravariant generic types.\n    See PEP 484 for more details. By default generic " ++
      "types are invariant\n    in all type variables.\n\n    Type variables can be " ++
      "introspected. e.g.:\n\n      T.__name__ == 'T'\n      T.__constraints__ == ()\n     " ++
      " T.__covariant__ == False\n      T.__contravariant__ = False\n      " ++
      "A.__constraints__ == (str, bytes)\n\n    Note that only type variables defined in " ++
      "global scope can be pickled.\n    "
  measures := ⟨24, 0, -48, 16, 546320⟩
  annotations := some []
  data :=
    [⟨"__dict__", none, "dictionary for instance variables"⟩]

/-- The class of general classes with classes for their items. -/
def generalAliases : Class where
  name := "_GenericAlias"
  home := "typing"
  lineage := ["_GenericAlias", "_BaseGenericAlias", "_Final", "object"]
  bases := ["_BaseGenericAlias"]
  measures := ⟨24, 0, -48, 16, 546320⟩
  annotations := some []

def unions : Class where
  name := "_UnionGenericAlias"
  home := "typing"
  lineage :=
    ["_UnionGenericAlias", "_NotIterable", "_GenericAlias", "_BaseGenericAlias", "_Final",
     "object"]
  bases := ["_NotIterable", "_GenericAlias"]
  measures := ⟨24, 0, -48, 16, 546320⟩
  annotations := some []
  data :=
    [⟨"__dict__", none, "dictionary for instance variables"⟩,
     ⟨"__weakref__", none, "list of weak references to the object"⟩]

def classForms : Class where
  name := "_SpecialForm"
  home := "typing"
  lineage := ["_SpecialForm", "_Final", "_NotIterable", "object"]
  bases := ["_Final", "_NotIterable"]
  measures := ⟨48, 0, 0, 16, 546304⟩
  annotations := some []
  members :=
    [⟨"__doc__", none, ""⟩,
     ⟨"_getitem", none, ""⟩,
     ⟨"_name", none, ""⟩]
  attributes :=
    [("__slots__", .value (.tuple [.text "_name", .text "__doc__", .text "_getitem"]))]

/-- The class of all general classes with classes for their items. -/
def aliases : Class where
  name := "_BaseGenericAlias"
  home := "typing"
  lineage := ["_BaseGenericAlias", "_Final", "object"]
  bases := ["_Final"]
  description :=
    "The central part of the internal API.\n\n    This represents a generic version of " ++
      "type 'origin' with type arguments 'params'.\n    There are two kind of these " ++
      "aliases: user defined and special. The special ones\n    are wrappers around " ++
      "builtin collections and ABCs in collections.abc. These must\n    have 'name' always " ++
      "set. If 'inst' is False, then the alias can't be instantiated;\n    this is used by " ++
      "e.g. typing.List and typing.Dict.\n    "
  measures := ⟨24, 0, -48, 16, 546320⟩
  annotations := some []
  data :=
    [⟨"__dict__", none, "dictionary for instance variables"⟩]

/-- The class of what cannot be gone through. -/
def memberless : Class where
  name := "_NotIterable"
  home := "typing"
  lineage := ["_NotIterable", "object"]
  bases := ["object"]
  description :=
    "Mixin to prevent iteration, without being compatible with Iterable.\n\n    That is, " ++
      "we could do::\n\n        def __iter__(self): raise TypeError()\n\n    But this " ++
      "would make users of this mixin duck type-compatible with\n    " ++
      "collections.abc.Iterable - isinstance(foo, Iterable) would be True.\n\n    Luckily, " ++
      "we can instead prevent iteration by setting __iter__ to None, which\n    is treated " ++
      "specially.\n    "
  measures := ⟨16, 0, 0, 0, 546304⟩
  annotations := some []
  attributes :=
    [("__slots__", .value (.tuple [])),
     ("__iter__", .value .absent)]

def finalThings : Class where
  name := "_Final"
  home := "typing"
  lineage := ["_Final", "object"]
  bases := ["object"]
  description := "Mixin to prohibit subclassing."
  measures := ⟨24, 0, 0, 16, 546304⟩
  annotations := some []
  data :=
    [⟨"__weakref__", none, "list of weak references to the object"⟩]
  attributes :=
    [("__slots__", .value (.tuple [.text "__weakref__"]))]

def unchanging : Class where
  name := "_Immutable"
  home := "typing"
  lineage := ["_Immutable", "object"]
  bases := ["object"]
  description := "Mixin to indicate that object should not be copied."
  measures := ⟨16, 0, 0, 0, 546304⟩
  annotations := some []
  attributes :=
    [("__slots__", .value (.tuple []))]

def boundedNames : Class where
  name := "_BoundVarianceMixin"
  home := "typing"
  lineage := ["_BoundVarianceMixin", "object"]
  bases := ["object"]
  description :=
    "Mixin giving __init__ bound and variance arguments.\n\n    This is used by TypeVar " ++
      "and ParamSpec, which both employ the notions of\n    a type 'bound' (restricting " ++
      "type arguments to be a subtype of some\n    specified type) and type 'variance' " ++
      "(determining subtype relations between\n    generic types).\n    "
  measures := ⟨24, 0, -48, 16, 546320⟩
  annotations := some []
  data :=
    [⟨"__dict__", none, "dictionary for instance variables"⟩,
     ⟨"__weakref__", none, "list of weak references to the object"⟩]

def storedNames : Class where
  name := "_PickleUsingNameMixin"
  home := "typing"
  lineage := ["_PickleUsingNameMixin", "object"]
  bases := ["object"]
  description := "Mixin enabling pickling based on self.__name__."
  measures := ⟨24, 0, -48, 16, 546320⟩
  annotations := some []
  data :=
    [⟨"__dict__", none, "dictionary for instance variables"⟩,
     ⟨"__weakref__", none, "list of weak references to the object"⟩]

/-- The class of classes that are only known by their names yet. -/
def forwardNames : Class where
  name := "ForwardRef"
  home := "typing"
  lineage := ["ForwardRef", "_Final", "object"]
  bases := ["_Final"]
  description := "Internal wrapper to hold a forward reference."
  measures := ⟨80, 0, 0, 16, 546304⟩
  annotations := some []
  members :=
    [⟨"__forward_arg__", none, ""⟩,
     ⟨"__forward_code__", none, ""⟩,
     ⟨"__forward_evaluated__", none, ""⟩,
     ⟨"__forward_is_argument__", none, ""⟩,
     ⟨"__forward_is_class__", none, ""⟩,
     ⟨"__forward_module__", none, ""⟩,
     ⟨"__forward_value__", none, ""⟩]
  attributes :=
    [("__slots__",
      .value
        (.tuple
           [.text "__forward_arg__", .text "__forward_code__", .text "__forward_evaluated__",
            .text "__forward_value__", .text "__forward_is_argument__",
            .text "__forward_is_class__", .text "__forward_module__"]))]

def anything : Class where
  name := "Any"
  home := "typing"
  lineage := ["Any", "object"]
  bases := ["object"]
  metaclass := "_AnyMeta"
  description :=
    "Special type indicating an unconstrained type.\n\n    - Any is compatible with " ++
      "every type.\n    - Any assumed to have all methods.\n    - All values assumed to be " ++
      "instances of Any.\n\n    Note that all the above statements are true from the point " ++
      "of view of\n    static type checkers. At runtime, Any should not be used with " ++
      "instance\n    checks.\n    "
  measures := ⟨24, 0, -48, 16, 546320⟩
  annotations := some []
  data :=
    [⟨"__dict__", none, "dictionary for instance variables"⟩,
     ⟨"__weakref__", none, "list of weak references to the object"⟩]

def streams : Class where
  name := "IO"
  home := "typing"
  lineage := ["IO", "Generic", "object"]
  bases := ["Generic"]
  description :=
    "Generic base class for TextIO and BinaryIO.\n\n    This is an abstract, generic " ++
      "version of the return of open().\n\n    NOTE: This does not distinguish between the " ++
      "different possible\n    classes (text vs. binary, read vs. write vs. read/write,\n  " ++
      "  append-only, unbuffered).  The TextIO and BinaryIO subclasses\n    below capture " ++
      "the distinctions between text vs. binary, which is\n    pervasive in the interface; " ++
      "however we currently do not offer a\n    way to track the other distinctions in the " ++
      "type system.\n    "
  measures := ⟨16, 0, 0, 0, 546304⟩
  annotations := some []
  attributes :=
    [("__slots__", .value (.tuple [])),
     ("__orig_bases__",
      .tuple
        [general "typing.Generic[~AnyStr]" .absent "Generic" "typing" (.kind "Generic")
           [classVariable "~AnyStr" "AnyStr" "typing" [.kind "bytes", .kind "str"]]
           [classVariable "~AnyStr" "AnyStr" "typing" [.kind "bytes", .kind "str"]]]),
     ("__parameters__",
      .tuple [classVariable "~AnyStr" "AnyStr" "typing" [.kind "bytes", .kind "str"]])]
  routines :=
    [{ name := "mode"
       home := "typing"
       sort := .property
       code :=
         { positional := 1, flags := 3, line := 3267, stack := 1, locals := ["self"],
           constants := [.absent] }
       annotations := [("return", .kind "str")]
       isAbstract := true },
     { name := "name"
       home := "typing"
       sort := .property
       code :=
         { positional := 1, flags := 3, line := 3272, stack := 1, locals := ["self"],
           constants := [.absent] }
       annotations := [("return", .kind "str")]
       isAbstract := true },
     { name := "closed"
       home := "typing"
       sort := .property
       code :=
         { positional := 1, flags := 3, line := 3281, stack := 1, locals := ["self"],
           constants := [.absent] }
       annotations := [("return", .kind "bool")]
       isAbstract := true }]

def textStreams : Class where
  name := "TextIO"
  home := "typing"
  lineage := ["TextIO", "IO", "Generic", "object"]
  bases := ["IO"]
  description := "Typed version of the return of open() in text mode."
  measures := ⟨16, 0, 0, 0, 546304⟩
  annotations := some []
  attributes :=
    [("__slots__", .value (.tuple [])),
     ("__orig_bases__",
      .tuple [general "typing.IO[str]" .absent "IO" "typing" (.kind "IO") [.kind "str"] []]),
     ("__parameters__", .value (.tuple []))]
  routines :=
    [{ name := "buffer"
       home := "typing"
       sort := .property
       code :=
         { positional := 1, flags := 3, line := 3370, stack := 1, locals := ["self"],
           constants := [.absent] }
       isAbstract := true },
     { name := "encoding"
       home := "typing"
       sort := .property
       code :=
         { positional := 1, flags := 3, line := 3375, stack := 1, locals := ["self"],
           constants := [.absent] }
       annotations := [("return", .kind "str")]
       isAbstract := true },
     { name := "errors"
       home := "typing"
       sort := .property
       code :=
         { positional := 1, flags := 3, line := 3380, stack := 1, locals := ["self"],
           constants := [.absent] }
       annotations :=
         [("return",
           union "typing.Optional[str]" (.text "Optional") [.kind "str", .kind "NoneType"])]
       isAbstract := true },
     { name := "line_buffering"
       home := "typing"
       sort := .property
       code :=
         { positional := 1, flags := 3, line := 3385, stack := 1, locals := ["self"],
           constants := [.absent] }
       annotations := [("return", .kind "bool")]
       isAbstract := true },
     { name := "newlines"
       home := "typing"
       sort := .property
       code :=
         { positional := 1, flags := 3, line := 3390, stack := 1, locals := ["self"],
           constants := [.absent] }
       annotations := [("return", .kind "Any")]
       isAbstract := true }]

def anythingClasses : Class where
  name := "_AnyMeta"
  home := "typing"
  lineage := ["_AnyMeta", "type", "object"]
  bases := ["type"]
  measures := ⟨904, 40, 264, 368, 2148029952⟩
  annotations := some []

def missingThings : Class where
  name := "_MISSING_TYPE"
  home := "dataclasses"
  lineage := ["_MISSING_TYPE", "object"]
  bases := ["object"]
  measures := ⟨24, 0, -48, 16, 546320⟩
  annotations := some []
  data :=
    [⟨"__dict__", none, "dictionary for instance variables"⟩,
     ⟨"__weakref__", none, "list of weak references to the object"⟩]

def recordRules : Class where
  name := "_DataclassParams"
  home := "dataclasses"
  lineage := ["_DataclassParams", "object"]
  bases := ["object"]
  measures := ⟨64, 0, 0, 0, 546304⟩
  annotations := some []
  members :=
    [⟨"eq", none, ""⟩,
     ⟨"frozen", none, ""⟩,
     ⟨"init", none, ""⟩,
     ⟨"order", none, ""⟩,
     ⟨"repr", none, ""⟩,
     ⟨"unsafe_hash", none, ""⟩]
  attributes :=
    [("__slots__",
      .value
        (.tuple
           [.text "init", .text "repr", .text "eq", .text "order", .text "unsafe_hash",
            .text "frozen"]))]
  routines :=
    [{ name := "__init__"
       home := "dataclasses"
       code :=
         { positional := 7, flags := 3, line := 346, stack := 2,
           locals := ["self", "init", "repr", "eq", "order", "unsafe_hash", "frozen"],
           names := ["init", "repr", "eq", "order", "unsafe_hash", "frozen"],
           constants := [.absent] } },
     { name := "__repr__"
       home := "dataclasses"
       code :=
         { positional := 1, flags := 3, line := 354, stack := 13, locals := ["self"],
           names := ["init", "repr", "eq", "order", "unsafe_hash", "frozen"],
           constants :=
             [.absent, .text "_DataclassParams(init=", .text ",repr=", .text ",eq=",
              .text ",order=", .text ",unsafe_hash=", .text ",frozen=", .text ")"] } }]

def recordFields : Class where
  name := "Field"
  home := "dataclasses"
  lineage := ["Field", "object"]
  bases := ["object"]
  measures := ⟨104, 0, 0, 0, 546304⟩
  annotations := some []
  members :=
    [⟨"_field_type", none, ""⟩,
     ⟨"compare", none, ""⟩,
     ⟨"default", none, ""⟩,
     ⟨"default_factory", none, ""⟩,
     ⟨"hash", none, ""⟩,
     ⟨"init", none, ""⟩,
     ⟨"kw_only", none, ""⟩,
     ⟨"metadata", none, ""⟩,
     ⟨"name", none, ""⟩,
     ⟨"repr", none, ""⟩,
     ⟨"type", none, ""⟩]
  attributes :=
    [("__slots__",
      .value
        (.tuple
           [.text "name", .text "type", .text "default", .text "default_factory", .text "repr",
            .text "hash", .text "init", .text "compare", .text "metadata", .text "kw_only",
            .text "_field_type"]))]
  routines :=
    [{ name := "__init__"
       home := "dataclasses"
       code :=
         { positional := 9, flags := 3, line := 287, stack := 3,
           locals :=
             ["self", "default", "default_factory", "init", "repr", "hash", "compare",
              "metadata", "kw_only"],
           names :=
             ["name", "type", "default", "default_factory", "init", "repr", "hash", "compare",
              "_EMPTY_METADATA", "types", "MappingProxyType", "metadata", "kw_only",
              "_field_type"],
           constants := [.absent] } },
     { name := "__repr__"
       home := "dataclasses"
       code :=
         { name := "wrapper", title := "_recursive_repr.<locals>.wrapper", positional := 1,
           flags := 19, line := 233, stack := 5, locals := ["self", "key", "result"],
           names := ["id", "_thread", "get_ident", "add", "discard"],
           free := ["repr_running", "user_function"], constants := [.absent, .text "..."] }
       isOuter := true },
     { name := "__set_name__"
       home := "dataclasses"
       code :=
         { positional := 3, flags := 3, line := 327, stack := 5,
           locals := ["self", "owner", "name", "func"], names := ["getattr", "type", "default"],
           constants := [.absent, .text "__set_name__"] } }]
  cores :=
    [{ name := "__repr__"
       home := "dataclasses"
       code :=
         { positional := 1, flags := 3, line := 303, stack := 23, locals := ["self"],
           names :=
             ["name", "type", "default", "default_factory", "init", "repr", "hash", "compare",
              "metadata", "kw_only", "_field_type"],
           constants :=
             [.absent, .text "Field(name=", .text ",type=", .text ",default=",
              .text ",default_factory=", .text ",init=", .text ",repr=", .text ",hash=",
              .text ",compare=", .text ",metadata=", .text ",kw_only=", .text ",_field_type=",
              .text ")"] } }]

def recordFieldSorts : Class where
  name := "_FIELD_BASE"
  home := "dataclasses"
  lineage := ["_FIELD_BASE", "object"]
  bases := ["object"]
  measures := ⟨24, 0, -48, 16, 546320⟩
  annotations := some []
  data :=
    [⟨"__dict__", none, "dictionary for instance variables"⟩,
     ⟨"__weakref__", none, "list of weak references to the object"⟩]
  routines :=
    [{ name := "__init__"
       home := "dataclasses"
       code :=
         { positional := 2, flags := 3, line := 201, stack := 2, locals := ["self", "name"],
           names := ["name"], constants := [.absent] } },
     { name := "__repr__"
       home := "dataclasses"
       code :=
         { positional := 1, flags := 3, line := 203, stack := 1, locals := ["self"],
           names := ["name"], constants := [.absent] } }]

def allPatterns : List Class :=
  [abstractClasses, generics, protocols, protocolClasses, classVariables, generalAliases, unions,
    classForms, aliases, memberless, finalThings, unchanging, boundedNames, storedNames,
    forwardNames, anything, streams, textStreams, anythingClasses, missingThings, recordRules,
    recordFields, recordFieldSorts]

end ProtectionLimits.Class

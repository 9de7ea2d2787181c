import ProtectionLimits.Exhibit.Class

/-!
Contract: the classes of enumerations.

Owns what these classes say about themselves and the features that they give to their
members.
-/

set_option autoImplicit false

namespace ProtectionLimits.Class

open Constant

def enumerations : Class where
  name := "Enum"
  home := "enum"
  lineage := ["Enum", "object"]
  bases := ["object"]
  metaclass := "EnumType"
  description :=
    "\n    Create a collection of name/value pairs.\n\n    Example enumeration:\n\n    " ++
      ">>> class Color(Enum):\n    ...     RED = 1\n    ...     BLUE = 2\n    ...     " ++
      "GREEN = 3\n\n    Access them by:\n\n    - attribute access::\n\n    >>> Color.RED\n " ++
      "   <Color.RED: 1>\n\n    - value lookup:\n\n    >>> Color(1)\n    <Color.RED: 1>\n\n" ++
      "    - name lookup:\n\n    >>> Color['RED']\n    <Color.RED: 1>\n\n    Enumerations " ++
      "can be iterated over, and know how many members they have:\n\n    >>> len(Color)\n  " ++
      "  3\n\n    >>> list(Color)\n    [<Color.RED: 1>, <Color.BLUE: 2>, <Color.GREEN: " ++
      "3>]\n\n    Methods can be added to enumerations, and members can have their own\n   " ++
      " attributes -- see the documentation for details.\n    "
  measures := ⟨24, 0, -48, 16, 546320⟩
  annotations := some []
  data :=
    [⟨"__dict__", none, "dictionary for instance variables"⟩,
     ⟨"__weakref__", none, "list of weak references to the object"⟩]
  attributes :=
    [("_use_args_", .value (.bool false)),
     ("_member_names_", .value (.list [])),
     ("_member_map_", .value (.mapping [])),
     ("_value2member_map_", .value (.mapping [])),
     ("_unhashable_values_", .value (.list [])),
     ("_member_type_", .kind "object"),
     ("_value_repr_", .value .absent)]
  routines :=
    [{ name := "__new__"
       home := "enum"
       sort := .static
       code :=
         { positional := 2, flags := 3, line := 1095, stack := 7,
           locals := ["cls", "value", "member", "exc", "result", "e", "ve_exc"],
           names :=
             ["type", "_value2member_map_", "KeyError", "TypeError", "_member_map_", "values",
              "_value_", "_missing_", "Exception", "isinstance", "Flag", "issubclass",
              "_boundary_", "EJECT", "int", "ValueError", "__qualname__", "__name__",
              "__context__"],
           constants :=
             [.absent, .text "%r has no members defined", .text " is not a valid ",
              .text "error in ", .text "._missing_: returned ",
              .text " instead of None or a valid member"] } },
     { name := "__init__"
       home := "enum"
       code :=
         { positional := 1, flags := 15, line := 1151, stack := 1,
           locals := ["self", "args", "kwds"], constants := [.absent] } },
     { name := "_generate_next_value_"
       home := "enum"
       description :=
         "\n        Generate the next value when not given.\n\n        name: the name of " ++
           "the member\n        start: the initial start value or None\n        count: the " ++
           "number of existing members\n        last_values: the list of values assigned\n " ++
           "       "
       code :=
         { positional := 4, flags := 3, line := 1154, stack := 6,
           locals := ["name", "start", "count", "last_values", "last", "warnings", "v"],
           names := ["sort", "TypeError", "warnings", "warn", "DeprecationWarning", "reversed"],
           constants :=
             [.int (-1), .int 1, .int 0, .absent,
              .text
                ("In 3.13 the default `auto()`/`_generate_next_value_` will require " ++
                   "all values to be sortable and support adding +1\nand the value " ++
                   "returned will be the largest value in the enum incremented by 1"),
              .int 3, .tuple [.text "stacklevel"]] } },
     { name := "_missing_"
       home := "enum"
       sort := .ofClass
       code :=
         { positional := 2, flags := 3, line := 1189, stack := 1, locals := ["cls", "value"],
           constants := [.absent] } },
     { name := "__repr__"
       home := "enum"
       code :=
         { positional := 1, flags := 3, line := 1193, stack := 8, locals := ["self", "v_repr"],
           names := ["__class__", "_value_repr_", "repr", "__name__", "_name_", "_value_"],
           constants := [.absent, .text "<", .text ".", .text ": ", .text ">"] } },
     { name := "__str__"
       home := "enum"
       code :=
         { positional := 1, flags := 3, line := 1197, stack := 3, locals := ["self"],
           names := ["__class__", "__name__", "_name_"], constants := [.absent, .text "."] } },
     { name := "__dir__"
       home := "enum"
       description :=
         "\n        Returns public methods and other interesting attributes.\n        "
       code :=
         { positional := 1, flags := 3, line := 1200, stack := 6,
           locals := ["self", "interesting", "name", "cls", "obj", "names"],
           names :=
             ["set", "__class__", "_member_type_", "object", "__dir__", "getattr",
              "_member_map_", "add", "mro", "__dict__", "items", "isinstance", "property",
              "fget", "discard", "sorted"],
           constants :=
             [.text "__dict__", .int 0, .text "_", .absent,
              .tuple
                [.text "__class__", .text "__doc__", .text "__eq__", .text "__hash__",
                 .text "__module__"]] } },
     { name := "__format__"
       home := "enum"
       code :=
         { positional := 2, flags := 3, line := 1229, stack := 5,
           locals := ["self", "format_spec"], names := ["str", "__format__"],
           constants := [.absent] } },
     { name := "__hash__"
       home := "enum"
       code :=
         { positional := 1, flags := 3, line := 1232, stack := 3, locals := ["self"],
           names := ["hash", "_name_"], constants := [.absent] } },
     { name := "__reduce_ex__"
       home := "enum"
       code :=
         { positional := 2, flags := 3, line := 1235, stack := 2, locals := ["self", "proto"],
           names := ["__class__", "_value_"], constants := [.absent] } },
     { name := "__deepcopy__"
       home := "enum"
       code :=
         { positional := 2, flags := 3, line := 1238, stack := 1, locals := ["self", "memo"],
           constants := [.absent] } },
     { name := "__copy__"
       home := "enum"
       code :=
         { positional := 1, flags := 3, line := 1241, stack := 1, locals := ["self"],
           constants := [.absent] } },
     { name := "_new_member_"
       ownName := "__new__"
       home := "enum"
       code :=
         { positional := 2, flags := 3, line := 1095, stack := 7,
           locals := ["cls", "value", "member", "exc", "result", "e", "ve_exc"],
           names :=
             ["type", "_value2member_map_", "KeyError", "TypeError", "_member_map_", "values",
              "_value_", "_missing_", "Exception", "isinstance", "Flag", "issubclass",
              "_boundary_", "EJECT", "int", "ValueError", "__qualname__", "__name__",
              "__context__"],
           constants :=
             [.absent, .text "%r has no members defined", .text " is not a valid ",
              .text "error in ", .text "._missing_: returned ",
              .text " instead of None or a valid member"] } }]

/-- The class of enumerations that are shown like their values. -/
def literalEnumerations : Class where
  name := "ReprEnum"
  home := "enum"
  lineage := ["ReprEnum", "Enum", "object"]
  bases := ["Enum"]
  metaclass := "EnumType"
  description :=
    "\n    Only changes the repr(), leaving str() and format() to the mixed-in type.\n    "
  measures := ⟨24, 0, -48, 16, 546320⟩
  annotations := some []
  attributes :=
    [("_generate_next_value_", .feature "Enum" "_generate_next_value_"),
     ("_new_member_", .feature "object" "__new__"),
     ("_use_args_", .value (.bool false)),
     ("_member_names_", .value (.list [])),
     ("_member_map_", .value (.mapping [])),
     ("_value2member_map_", .value (.mapping [])),
     ("_unhashable_values_", .value (.list [])),
     ("_member_type_", .kind "object"),
     ("_value_repr_", .value .absent),
     ("__new__", .feature "Enum" "__new__")]

def integerEnumerations : Class where
  name := "IntEnum"
  home := "enum"
  lineage := ["IntEnum", "int", "ReprEnum", "Enum", "object"]
  bases := ["int", "ReprEnum"]
  metaclass := "EnumType"
  description := "\n    Enum where members are also (and must be) ints\n    "
  measures := ⟨32, 4, -8, 0, 21517824⟩
  annotations := some []
  data :=
    [⟨"__dict__", none, "dictionary for instance variables"⟩]
  attributes :=
    [("_generate_next_value_", .feature "Enum" "_generate_next_value_"),
     ("_new_member_", .feature "int" "__new__"),
     ("_use_args_", .value (.bool true)),
     ("_member_names_", .value (.list [])),
     ("_member_map_", .value (.mapping [])),
     ("_value2member_map_", .value (.mapping [])),
     ("_unhashable_values_", .value (.list [])),
     ("_member_type_", .kind "int"),
     ("_value_repr_", .feature "int" "__repr__"),
     ("__format__", .feature "int" "__format__"),
     ("__str__", .feature "int" "__repr__"),
     ("__repr__", .feature "Enum" "__repr__"),
     ("__new__", .feature "Enum" "__new__")]

def enumerationClasses : Class where
  name := "EnumType"
  home := "enum"
  lineage := ["EnumType", "type", "object"]
  bases := ["type"]
  description := "\n    Metaclass for Enum\n    "
  measures := ⟨904, 40, 264, 368, 2148029952⟩
  annotations := some []
  routines :=
    [{ name := "__prepare__"
       home := "enum"
       sort := .ofClass
       code :=
         { positional := 3, flags := 11, line := 484, stack := 5,
           locals :=
             ["metacls", "cls", "bases", "kwds", "enum_dict", "member_type", "first_enum"],
           names :=
             ["_check_for_existing_members_", "_EnumDict", "_cls_name", "_get_mixins_",
              "getattr"],
           constants := [.absent, .text "_generate_next_value_"] } },
     { name := "__new__"
       home := "enum"
       sort := .static
       code :=
         { positional := 4, keywordOnly := 2, flags := 11, line := 499, stack := 7,
           locals :=
             ["metacls", "cls", "bases", "classdict", "boundary", "_simple", "kwds", "ignore",
              "key", "member_names", "invalid_names", "_order_", "member_type", "first_enum",
              "__new__", "save_new", "use_args", "name", "value", "exc", "e", "method",
              "enum_method", "found_method", "object_method", "data_type_method", "member_list"],
           names :=
             ["super", "__new__", "setdefault", "append", "pop", "_member_names", "set",
              "ValueError", "join", "dict", "items", "_get_mixins_", "_find_new_",
              "_proto_member", "_find_data_repr_", "getattr", "RuntimeError", "__cause__",
              "update", "__dict__", "ReprEnum", "object", "TypeError", "__format__", "__str__",
              "__repr__", "setattr", "Flag", "issubclass", "Enum", "__new_member__",
              "isinstance", "str", "replace", "split", "delattr", "sorted",
              "_iter_member_by_def_", "_iter_member_", "_member_names_"],
           free := ["__class__"], cells := ["enum_class"],
           constants :=
             [.absent, .text "_ignore_", .text "mro", .text "",
              .text "invalid enum member name(s) %s", .text ",", .absent, .text "_order_",
              .text "_new_member_", .text "_use_args_", .text "_member_names_",
              .text "_member_map_", .text "_value2member_map_", .text "_unhashable_values_",
              .text "_member_type_", .text "_value_repr_", .text "_boundary_", .int 0,
              .text "_flag_mask_", .text "_singles_mask_", .text "_all_bits_",
              .text "_inverted_",
              .text
                ("ReprEnum subclasses must be mixed with a data type (i.e. int, str, " ++
                   "float, etc.)"),
              .text "__format__", .text "__str__",
              .tuple
                [.text "__repr__", .text "__str__", .text "__format__", .text "__reduce_ex__"],
              .tuple
                [.text "__or__", .text "__and__", .text "__xor__", .text "__ror__",
                 .text "__rand__", .text "__rxor__", .text "__invert__"],
              .text " ", .text "Flag", .absent, .absent, .absent,
              .text "member order does not match _order_:\n  ", .text "\n  "] }
       keywordDefaults := [("boundary", .value .absent), ("_simple", .value (.bool false))] },
     { name := "__bool__"
       home := "enum"
       description := "\n        classes/types should always be True.\n        "
       code :=
         { positional := 1, flags := 3, line := 682, stack := 1, locals := ["cls"],
           constants := [.bool true] } },
     { name := "__call__"
       home := "enum"
       description :=
         "\n        Either returns an existing member, or creates a new enum class.\n\n  " ++
           "      This method is used both when an enum class is given a value to match\n  " ++
           "      to an enumeration member (i.e. Color(3)) and for the functional API\n    " ++
           "    (i.e. Color = Enum('Color', names='RED GREEN BLUE')).\n\n        When used " ++
           "for the functional API:\n\n        `value` will be the name of the new class.\n" ++
           "\n        `names` should be either a string of white-space/comma delimited " ++
           "names\n        (values will start at `start`), or an iterator/mapping of name, " ++
           "value pairs.\n\n        `module` should be set to the module this class is " ++
           "being created in;\n        if it is not set, an attempt to find that module " ++
           "will be made, but if\n        it fails the class will not be picklable.\n\n    " ++
           "    `qualname` should be set to the actual location this class can be found\n  " ++
           "      at in its module; by default it is set to the global scope.  If this is\n" ++
           "        not correct, unpickling will fail in some circumstances.\n\n        " ++
           "`type`, if set, will be mixed in as the first base class.\n        "
       code :=
         { positional := 3, keywordOnly := 5, flags := 3, line := 688, stack := 9,
           locals :=
             ["cls", "value", "names", "module", "qualname", "type", "start", "boundary"],
           names := ["__new__", "_create_"],
           constants :=
             [.absent,
              .tuple
                [.text "module", .text "qualname", .text "type", .text "start",
                 .text "boundary"]] }
       defaults := some [.value .absent]
       keywordDefaults :=
         [("module", .value .absent), ("qualname", .value .absent), ("type", .value .absent),
          ("start", .value (.int 1)), ("boundary", .value .absent)] },
     { name := "__contains__"
       home := "enum"
       description :=
         "\n        Return True if member is a member of this enum\n        raises " ++
           "TypeError if member is not an enum member\n\n        note: in 3.12 TypeError " ++
           "will no longer be raised, and True will also be\n        returned if member is " ++
           "the value of a member in this enum\n        "
       code :=
         { positional := 2, flags := 3, line := 726, stack := 7,
           locals := ["cls", "member", "warnings"],
           names :=
             ["isinstance", "Enum", "warnings", "warn", "DeprecationWarning", "TypeError",
              "type", "__qualname__", "__class__", "_name_", "_member_map_"],
           constants :=
             [.int 0, .absent,
              .text
                ("in 3.12 __contains__ will no longer raise TypeError, but will return " ++
                   "True or\nFalse depending on whether the value is a member or the " ++
                   "value of a member"),
              .int 2, .tuple [.text "stacklevel"],
              .text "unsupported operand type(s) for 'in': '", .text "' and '", .text "'"] } },
     { name := "__delattr__"
       home := "enum"
       code :=
         { positional := 2, flags := 3, line := 747, stack := 6, locals := ["cls", "attr"],
           names := ["_member_map_", "AttributeError", "__name__", "super", "__delattr__"],
           free := ["__class__"],
           constants := [.absent, .text " cannot delete member ", .text "."] } },
     { name := "__dir__"
       home := "enum"
       code :=
         { positional := 1, flags := 3, line := 754, stack := 7,
           locals := ["cls", "interesting"],
           names :=
             ["set", "_member_names_", "_new_member_", "object", "__new__", "add",
              "__init_subclass__", "_member_type_", "sorted", "dir"],
           constants :=
             [.absent,
              .tuple
                [.text "__class__", .text "__contains__", .text "__doc__", .text "__getitem__",
                 .text "__iter__", .text "__len__", .text "__members__", .text "__module__",
                 .text "__name__", .text "__qualname__"],
              .text "__new__", .text "__init_subclass__"] } },
     { name := "__getattr__"
       home := "enum"
       description :=
         "\n        Return the enum member matching `name`\n\n        We use __getattr__ " ++
           "instead of descriptors or inserting into the enum\n        class' __dict__ in " ++
           "order to support `name` and `value` being both\n        properties for enum " ++
           "members (which live in the class' __dict__) and\n        enum members " ++
           "themselves.\n        "
       code :=
         { positional := 2, flags := 3, line := 772, stack := 4, locals := ["cls", "name"],
           names := ["_is_dunder", "AttributeError", "_member_map_", "KeyError"],
           constants := [.absent] } },
     { name := "__getitem__"
       home := "enum"
       description := "\n        Return the member matching `name`.\n        "
       code :=
         { positional := 2, flags := 3, line := 788, stack := 2, locals := ["cls", "name"],
           names := ["_member_map_"] } },
     { name := "__iter__"
       home := "enum"
       description := "\n        Return members in definition order.\n        "
       code :=
         { positional := 1, flags := 3, line := 794, stack := 2, locals := ["cls"],
           names := ["_member_names_"], cells := ["cls"], constants := [.absent] } },
     { name := "__len__"
       home := "enum"
       description := "\n        Return the number of members (no aliases)\n        "
       code :=
         { positional := 1, flags := 3, line := 800, stack := 3, locals := ["cls"],
           names := ["len", "_member_names_"] } },
     { name := "__members__"
       home := "enum"
       sort := .property
       description :=
         "\n        Returns a mapping of member name->value.\n\n        This mapping " ++
           "lists all enum members, including aliases. Note that this\n        is a " ++
           "read-only view of the internal mapping.\n        "
       code :=
         { positional := 1, flags := 3, line := 806, stack := 3, locals := ["cls"],
           names := ["MappingProxyType", "_member_map_"] } },
     { name := "__repr__"
       home := "enum"
       code :=
         { positional := 1, flags := 3, line := 816, stack := 4, locals := ["cls"],
           names := ["Flag", "issubclass", "__name__"],
           constants := [.absent, .text "<flag %r>", .text "<enum %r>"] } },
     { name := "__reversed__"
       home := "enum"
       description := "\n        Return members in reverse definition order.\n        "
       code :=
         { positional := 1, flags := 3, line := 822, stack := 4, locals := ["cls"],
           names := ["reversed", "_member_names_"], cells := ["cls"], constants := [.absent] } },
     { name := "__setattr__"
       home := "enum"
       description :=
         "\n        Block attempts to reassign Enum members.\n\n        A simple " ++
           "assignment to the class namespace only changes one of the\n        several " ++
           "possible ways to get an Enum member from the Enum class,\n        resulting in " ++
           "an inconsistent Enumeration.\n        "
       code :=
         { positional := 3, flags := 3, line := 828, stack := 4,
           locals := ["cls", "name", "value", "member_map"],
           names := ["__dict__", "get", "AttributeError", "super", "__setattr__"],
           free := ["__class__"],
           constants := [.text "_member_map_", .text "cannot reassign member ", .absent] } },
     { name := "_create_"
       home := "enum"
       description :=
         "\n        Convenience method to create a new Enum class.\n\n        `names` " ++
           "can be:\n\n        * A string containing member names, separated either with " ++
           "spaces or\n          commas.  Values are incremented by 1 from `start`.\n      " ++
           "  * An iterable of member names.  Values are incremented by 1 from `start`.\n  " ++
           "      * An iterable of (member name, value) pairs.\n        * A mapping of " ++
           "member name -> value pairs.\n        "
       code :=
         { positional := 3, keywordOnly := 5, flags := 3, line := 841, stack := 9,
           locals :=
             ["cls", "class_name", "names", "module", "qualname", "type", "start", "boundary",
              "metacls", "bases", "_", "first_enum", "classdict", "original_names",
              "last_values", "count", "name", "value", "item", "member_name", "member_value"],
           names :=
             ["__class__", "_get_mixins_", "__prepare__", "isinstance", "str", "replace",
              "split", "tuple", "list", "enumerate", "_generate_next_value_", "append", "sys",
              "_getframe", "f_globals", "AttributeError", "ValueError", "KeyError",
              "_make_class_unpicklable", "__new__"],
           constants :=
             [.absent, .text ",", .text " ", .int 0, .tuple [], .int 2, .text "__name__",
              .text "__module__", .text "__qualname__", .tuple [.text "boundary"]] }
       keywordDefaults :=
         [("module", .value .absent), ("qualname", .value .absent), ("type", .value .absent),
          ("start", .value (.int 1)), ("boundary", .value .absent)] },
     { name := "_convert_"
       home := "enum"
       description :=
         "\n        Create a new Enum subclass that replaces a collection of global " ++
           "constants\n        "
       code :=
         { positional := 5, keywordOnly := 2, flags := 3, line := 895, stack := 5,
           locals :=
             ["cls", "name", "module", "filter", "source", "boundary", "as_global",
              "module_globals", "members", "body", "tmp_cls"],
           names :=
             ["sys", "modules", "__dict__", "items", "sort", "TypeError", "type", "object",
              "_simple_enum", "KEEP", "global_enum", "__module__", "update", "__members__"],
           cells := ["filter"],
           constants :=
             [.absent, .absent, .tuple [.text "key"], .absent, .absent, .text "__module__",
              .tuple [.text "etype", .text "boundary"]] }
       defaults := some [.value .absent]
       keywordDefaults := [("boundary", .value .absent), ("as_global", .value (.bool false))] },
     { name := "_check_for_existing_members_"
       home := "enum"
       sort := .ofClass
       code :=
         { positional := 3, flags := 3, line := 933, stack := 8,
           locals := ["mcls", "class_name", "bases", "chain", "base"],
           names := ["__mro__", "isinstance", "EnumType", "_member_names_", "TypeError"],
           constants := [.absent, .text "<enum ", .text "> cannot extend "] } },
     { name := "_get_mixins_"
       home := "enum"
       sort := .ofClass
       description :=
         "\n        Returns the type for creating enum members, and the first inherited\n" ++
           "        enum class.\n\n        bases: the tuple of bases that was given to " ++
           "__new__\n        "
       code :=
         { positional := 3, flags := 3, line := 943, stack := 4,
           locals := ["mcls", "class_name", "bases", "first_enum", "member_type"],
           names :=
             ["object", "Enum", "_check_for_existing_members_", "isinstance", "EnumType",
              "TypeError", "_find_data_type_"],
           constants :=
             [.int (-1),
              .text
                ("new enumerations should be created as `EnumName([mixin_type, " ++
                   "...] [data_type,] enum_type)`")] } },
     { name := "_find_data_repr_"
       home := "enum"
       sort := .ofClass
       code :=
         { positional := 3, flags := 3, line := 965, stack := 6,
           locals := ["mcls", "class_name", "bases", "chain", "base"],
           names := ["__mro__", "object", "isinstance", "EnumType", "_value_repr_", "__dict__"],
           constants := [.absent, .text "__repr__"] } },
     { name := "_find_data_type_"
       home := "enum"
       sort := .ofClass
       code :=
         { positional := 3, flags := 3, line := 979, stack := 6,
           locals :=
             ["mcls", "class_name", "bases", "data_types", "base_chain", "chain", "candidate",
              "base"],
           names :=
             ["set", "__mro__", "add", "object", "isinstance", "EnumType", "_member_type_",
              "__dict__", "len", "TypeError", "pop"],
           constants :=
             [.absent, .text "__new__", .text "__dataclass_fields__", .int 1,
              .text "too many data types for ", .text ": "] } },
     { name := "_find_new_"
       home := "enum"
       sort := .ofClass
       description :=
         "\n        Returns the __new__ to be used for creating the enum members.\n\n    " ++
           "    classdict: the class dictionary given to __new__\n        member_type: the " ++
           "data type whose __new__ will be used by default\n        first_enum: " ++
           "enumeration to check for an overriding __new__\n        "
       code :=
         { positional := 4, flags := 3, line := 1008, stack := 7,
           locals :=
             ["mcls", "classdict", "member_type", "first_enum", "__new__", "save_new", "method",
              "possible", "target", "use_args"],
           names := ["get", "getattr", "__new__", "object", "Enum"],
           constants :=
             [.text "__new__", .absent, .tuple [.text "__new_member__", .text "__new__"],
              .bool false, .bool true] } }]

def allEnumerations : List Class :=
  [enumerations, literalEnumerations, integerEnumerations, enumerationClasses]

end ProtectionLimits.Class

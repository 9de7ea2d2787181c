import ProtectionLimits.Exhibit.Class

/-!
Contract: the classes of registries and of what they manage.

Owns what these classes say about themselves and the features that they give to their
members.
-/

set_option autoImplicit false

namespace ProtectionLimits.Class

open Constant

def states : Class where
  name := "State"
  home := "xmllimits.limits"
  lineage := ["State", "IntEnum", "int", "ReprEnum", "Enum", "object"]
  bases := ["IntEnum"]
  metaclass := "EnumType"
  description :=
    "\n    States of the setting of a limit. The order of the members is the order\n    " ++
      "of precedence: a setting can be overridden only by a setting with the\n    same " ++
      "state or with a following one.\n    "
  measures := ⟨32, 4, -8, 0, 21517824⟩
  annotations := some []
  attributes :=
    [("_generate_next_value_", .feature "Enum" "_generate_next_value_"),
     ("_new_member_", .feature "int" "__new__"),
     ("_use_args_", .value (.bool true)),
     ("_unhashable_values_", .value (.list [])),
     ("_member_type_", .kind "int"),
     ("_value_repr_", .feature "int" "__repr__"),
     ("__format__", .feature "int" "__format__"),
     ("__new__", .feature "Enum" "__new__")]
  routines :=
    [{ name := "literal"
       home := "xmllimits.limits"
       sort := .property
       code :=
         { positional := 1, flags := 3, line := 42, stack := 2, locals := ["self"],
           names := ["_STATE_LITERALS"], constants := [.absent] }
       annotations := [("return", .kind "str")] }]

def limits : Class where
  name := "Limit"
  home := "xmllimits.limits"
  lineage := ["Limit", "Enum", "object"]
  bases := ["Enum"]
  metaclass := "EnumType"
  description :=
    "\n    Limits managed by a registry, each one with its key, the name of the API\n    " ++
      "property, the name of the system property (environment variable or\n    settings " ++
      "key), the default value and the value used in secure processing.\n    "
  measures := ⟨24, 0, -48, 16, 546320⟩
  annotations := some []
  attributes :=
    [("_generate_next_value_", .feature "Enum" "_generate_next_value_"),
     ("_new_member_", .feature "object" "__new__"),
     ("_use_args_", .value (.bool false)),
     ("_unhashable_values_", .value (.list [])),
     ("_member_type_", .kind "object"),
     ("_value_repr_", .value .absent),
     ("__new__", .feature "Enum" "__new__")]
  routines :=
    [{ name := "__init__"
       home := "xmllimits.limits"
       code :=
         { positional := 6, flags := 3, line := 108, stack := 2,
           locals :=
             ["self", "key", "api_property", "system_property", "default_value", "secure_value"],
           names := ["key", "api_property", "system_property", "default_value", "secure_value"],
           constants := [.absent] }
       annotations :=
         [("key", .kind "str"), ("api_property", .kind "str"), ("system_property", .kind "str"),
          ("default_value", .kind "int"), ("secure_value", .kind "int"),
          ("return", .value .absent)] }]

def limitPatterns : Class where
  name := "LimitType"
  home := "xmllimits.limits"
  lineage := ["LimitType", "Protocol", "Generic", "object"]
  bases := ["Protocol"]
  metaclass := "_ProtocolMeta"
  description := "The protocol of the items of a limits table."
  measures := ⟨24, 0, -48, 16, 546320⟩
  abstractRoutines := some []
  annotations :=
    some
      [("key", .kind "str"), ("api_property", .kind "str"), ("system_property", .kind "str"),
       ("default_value", .kind "int"), ("secure_value", .kind "int")]
  data :=
    [⟨"__dict__", none, "dictionary for instance variables"⟩,
     ⟨"__weakref__", none, "list of weak references to the object"⟩]
  attributes :=
    [("__parameters__", .value (.tuple [])),
     ("_is_protocol", .value (.bool true))]
  routines :=
    [{ name := "__subclasshook__"
       ownName := "_proto_hook"
       title := "Protocol.__init_subclass__.<locals>._proto_hook"
       home := "typing"
       code :=
         { positional := 1, flags := 19, line := 2079, stack := 7,
           locals := ["other", "attr", "base", "annotations"],
           names :=
             ["__dict__", "get", "NotImplemented", "getattr", "_allow_reckless_class_checks",
              "TypeError", "_is_callable_members_only", "isinstance", "type",
              "_get_protocol_attrs", "__mro__", "collections", "abc", "Mapping", "issubclass",
              "Generic", "_is_protocol"],
           free := ["cls"],
           constants :=
             [.absent, .text "_is_protocol", .bool false, .text "_is_runtime_protocol",
              .text
                "Instance and class checks can only be used with @runtime_checkable protocols",
              .text "Protocols with non-method members don't support issubclass()",
              .text "issubclass() arg 1 must be a class", .text "__annotations__",
              .bool true] } },
     { name := "__init__"
       ownName := "_no_init_or_replace_init"
       title := "_no_init_or_replace_init"
       home := "typing"
       code :=
         { positional := 1, flags := 15, line := 1952, stack := 5,
           locals := ["self", "args", "kwargs", "cls", "base", "init"],
           names :=
             ["type", "_is_protocol", "TypeError", "__init__", "_no_init_or_replace_init",
              "__mro__", "__dict__", "get", "object"],
           constants :=
             [.absent, .text "Protocols cannot be instantiated", .text "__init__"] } }]

def customLimits : Class where
  name := "PlainLimit"
  home := "__main__"
  lineage := ["PlainLimit", "object"]
  bases := ["object"]
  measures := ⟨24, 0, -48, 16, 546320⟩
  annotations :=
    some
      [("key", .kind "object"), ("api_property", .kind "object"),
       ("system_property", .kind "object"), ("default_value", .kind "object"),
       ("secure_value", .kind "object")]
  data :=
    [⟨"__dict__", none, "dictionary for instance variables"⟩,
     ⟨"__weakref__", none, "list of weak references to the object"⟩]
  attributes :=
    [("__dataclass_params__",
      .shown "_DataclassParams"
        ("_DataclassParams(init=True,repr=True,eq=True,order=False,unsafe_hash" ++
           "=False,frozen=False)")
        [("init", .value (.bool true)), ("repr", .value (.bool true)),
         ("eq", .value (.bool true)), ("order", .value (.bool false)),
         ("unsafe_hash", .value (.bool false)), ("frozen", .value (.bool false))]),
     ("__dataclass_fields__",
      .mapping "dict"
        [(.text "key", recordField "key" (.kind "object") leftOut),
         (.text "api_property", recordField "api_property" (.kind "object") leftOut),
         (.text "system_property", recordField "system_property" (.kind "object") leftOut),
         (.text "default_value", recordField "default_value" (.kind "object") leftOut),
         (.text "secure_value", recordField "secure_value" (.kind "object") leftOut)]),
     ("__hash__", .value .absent),
     ("__match_args__",
      .value
        (.tuple
           [.text "key", .text "api_property", .text "system_property", .text "default_value",
            .text "secure_value"]))]
  routines :=
    [{ name := "__init__"
       home := "__main__"
       code :=
         { title := "__create_fn__.<locals>.__init__", source := some "<string>",
           positional := 6, flags := 19, line := 2, stack := 2,
           locals :=
             ["self", "key", "api_property", "system_property", "default_value", "secure_value"],
           names := ["key", "api_property", "system_property", "default_value", "secure_value"],
           constants := [.absent] }
       annotations :=
         [("key", .kind "object"), ("api_property", .kind "object"),
          ("system_property", .kind "object"), ("default_value", .kind "object"),
          ("secure_value", .kind "object"), ("return", .value .absent)] },
     { name := "__repr__"
       home := "__main__"
       code :=
         { name := "wrapper", title := "_recursive_repr.<locals>.wrapper", positional := 1,
           flags := 19, line := 233, stack := 5, locals := ["self", "key", "result"],
           names := ["id", "_thread", "get_ident", "add", "discard"],
           free := ["repr_running", "user_function"], constants := [.absent, .text "..."] }
       isOuter := true },
     { name := "__eq__"
       home := "__main__"
       code :=
         { title := "__create_fn__.<locals>.__eq__", source := some "<string>", positional := 2,
           flags := 19, line := 2, stack := 6, locals := ["self", "other"],
           names :=
             ["__class__", "key", "api_property", "system_property", "default_value",
              "secure_value", "NotImplemented"],
           constants := [.absent] } }]
  cores :=
    [{ name := "__repr__"
       title := "__create_fn__.<locals>.__repr__"
       home := "__main__"
       code :=
         { source := some "<string>", positional := 1, flags := 19, line := 2, stack := 12,
           locals := ["self"],
           names :=
             ["__class__", "__qualname__", "key", "api_property", "system_property",
              "default_value", "secure_value"],
           constants :=
             [.absent, .text "(key=", .text ", api_property=", .text ", system_property=",
              .text ", default_value=", .text ", secure_value=", .text ")"] } }]

def registries : Class where
  name := "LimitRegistry"
  home := "xmllimits.registry"
  lineage := ["LimitRegistry", "object"]
  bases := ["object"]
  description :=
    "\n    The registry of the protection limits of an XML processing session. For each\n" ++
      "    limit the registry keeps the effective value, the state of the setting that\n   " ++
      " produced the value and a flag that is set by the first explicit setting.\n\n    A " ++
      "setting is applied only if its state is equal or greater than the state\n    of the " ++
      "current value, so a setting of higher precedence can't be overridden\n    by later " ++
      "settings of lower precedence. Rejected settings are silently\n    ignored.\n\n    A " ++
      "registry is not thread-safe and is meant to be used by a single session.\n\n    " ++
      ":param secure_processing: if `True` limits are initialized with their     secure " ++
      "values, otherwise with their default values.\n    :param limits: an optional table " ++
      "of limits, for default all the members     of :class:`Limit` are managed.\n    " ++
      ":param config: the loader of system settings, for default settings are     read " ++
      "from environment variables.\n    :param legacy_names: optional mapping of old names " ++
      "of system properties,     for default :data:`LEGACY_NAMES` is used.\n    :param " ++
      "loglevel: optional logging level to apply during the initialization.\n    "
  measures := ⟨24, 0, -48, 16, 546320⟩
  annotations := some []
  data :=
    [⟨"__dict__", none, "dictionary for instance variables"⟩,
     ⟨"__weakref__", none, "list of weak references to the object"⟩]
  routines :=
    [{ name := "__init__"
       home := "xmllimits.registry"
       code :=
         { name := "wrapper", title := "logged.<locals>.wrapper", positional := 0, flags := 31,
           line := 52, stack := 5, locals := ["args", "kwargs", "loglevel", "current_level"],
           names := ["get", "logger", "level", "set_logging_level", "setLevel"],
           free := ["func"], constants := [.absent, .text "loglevel"] }
       annotations :=
         [("secure_processing", .kind "bool"),
          ("limits",
           union "typing.Optional[collections.abc.Iterable[xmllimits.limits.LimitType]]"
             (.text "Optional")
             [container "collections.abc.Iterable[xmllimits.limits.LimitType]" (.kind "Iterable")
                [.kind "LimitType"],
              .kind "NoneType"]),
          ("config",
           union "typing.Optional[xmllimits.config.ConfigLoader]" (.text "Optional")
             [.kind "ConfigLoader", .kind "NoneType"]),
          ("legacy_names",
           union "typing.Optional[collections.abc.Mapping[str, str]]" (.text "Optional")
             [container "collections.abc.Mapping[str, str]" (.kind "Mapping")
                [.kind "str", .kind "str"],
              .kind "NoneType"]),
          ("loglevel",
           union "typing.Union[NoneType, str, int]" .absent
             [.kind "NoneType", .kind "str", .kind "int"]),
          ("return", .value .absent)]
       isOuter := true },
     { name := "__repr__"
       home := "xmllimits.registry"
       code :=
         { positional := 1, flags := 3, line := 101, stack := 4, locals := ["self"],
           names := ["__class__", "__name__", "secure_processing"],
           constants := [.absent, .text "(secure_processing=", .text ")"] }
       annotations := [("return", .kind "str")] },
     { name := "__len__"
       home := "xmllimits.registry"
       code :=
         { positional := 1, flags := 3, line := 104, stack := 3, locals := ["self"],
           names := ["len", "limits"], constants := [.absent] }
       annotations := [("return", .kind "int")] },
     { name := "_read_system_properties"
       home := "xmllimits.registry"
       code :=
         { positional := 1, flags := 3, line := 107, stack := 5,
           locals := ["self", "k", "limit", "old_name"],
           names :=
             ["enumerate", "limits", "_read_system_property", "system_property",
              "get_legacy_name", "legacy_names"],
           constants := [.absent] }
       annotations := [("return", .value .absent)] },
     { name := "_read_system_property"
       home := "xmllimits.registry"
       code :=
         { positional := 3, flags := 3, line := 115, stack := 7,
           locals := ["self", "index", "name", "setting", "limit", "value", "state"],
           names :=
             ["config", "get_property", "limits", "parse_limit_value", "system_property",
              "values", "states", "logger", "info", "key", "literal"],
           constants :=
             [.absent, .bool false, .text "Limit %r set to %d from %s %r", .bool true] }
       annotations :=
         [("index", .kind "int"), ("name", .kind "str"), ("return", .kind "bool")] },
     { name := "_ordinal"
       home := "xmllimits.registry"
       code :=
         { positional := 2, flags := 3, line := 128, stack := 7,
           locals := ["self", "limit", "msg"],
           names := ["_ordinals", "id", "KeyError", "_", "XMLLimitsValueError", "format"],
           constants := [.absent, .text "\x7b!r\x7d is not a limit managed by \x7b!r\x7d"] }
       annotations := [("limit", .kind "LimitType"), ("return", .kind "int")] },
     { name := "_set_value"
       home := "xmllimits.registry"
       code :=
         { positional := 4, flags := 3, line := 135, stack := 8,
           locals := ["self", "index", "state", "value"],
           names :=
             ["states", "values", "is_set_flags", "logger", "debug", "limits", "key", "literal"],
           constants :=
             [.absent, .bool true, .text "Limit %r set to %d by %s",
              .text "Setting %d by %s for limit %r ignored, the current value is set by %s"] }
       annotations :=
         [("index", .kind "int"), ("state", .kind "State"), ("value", .kind "int"),
          ("return", .value .absent)] },
     { name := "set_secure_processing"
       home := "xmllimits.registry"
       description :=
         "\n        Sets all the limits to their secure values or to their default " ++
           "values.\n        Limits set by a configuration file, an environment variable " ++
           "or an API\n        property are not changed.\n        "
       code :=
         { positional := 2, flags := 3, line := 147, stack := 6,
           locals := ["self", "secure", "k", "limit"],
           names :=
             ["secure_processing", "enumerate", "limits", "_set_value", "State",
              "SECURE_PROCESSING", "secure_value", "default_value"],
           constants := [.absent] }
       annotations := [("secure", .kind "bool"), ("return", .value .absent)] },
     { name := "set_limit"
       home := "xmllimits.registry"
       description :=
         "\n        Sets a limit by property name and state.\n\n        :param " ++
           "property_name: the API or system property name of the limit.\n        :param " ++
           "state: the state of the setting.\n        :param value: the value of the " ++
           "setting, an integer or a string.\n        :return: `True` if the property is " ++
           "managed by the registry, `False` otherwise.\n        "
       code :=
         { positional := 4, flags := 3, line := 160, stack := 5,
           locals := ["self", "property_name", "state", "value", "index"],
           names := ["get_index", "set_limit_by_index"],
           constants := [.int 0, .bool false, .bool true] }
       annotations :=
         [("property_name", .kind "str"), ("state", .kind "State"),
          ("value", union "typing.Union[str, int]" .absent [.kind "str", .kind "int"]),
          ("return", .kind "bool")] },
     { name := "set_limit_value"
       home := "xmllimits.registry"
       description :=
         "\n        Sets the value of a specific limit.\n\n        :param limit: the " ++
           "limit.\n        :param state: the state of the setting.\n        :param value: " ++
           "the value of the limit.\n        "
       code :=
         { positional := 4, flags := 3, line := 175, stack := 7,
           locals := ["self", "limit", "state", "value", "msg"],
           names :=
             ["isinstance", "State", "_", "XMLLimitsTypeError", "format", "type", "bool", "int",
              "_set_value", "_ordinal"],
           constants :=
             [.text "invalid type \x7b!r\x7d for state, must be a \x7b!r\x7d",
              .text "invalid type \x7b!r\x7d for a limit value, must be an int", .absent] }
       annotations :=
         [("limit", .kind "LimitType"), ("state", .kind "State"), ("value", .kind "int"),
          ("return", .value .absent)] },
     { name := "set_limit_by_index"
       home := "xmllimits.registry"
       description :=
         "\n        Sets the value of a limit by its index. String values are parsed\n   " ++
           "     and negative values are changed to 0. For the entity count info\n        " ++
           "property a string value is stored as is and an integer value\n        " ++
           "activates the entity count info.\n\n        :param index: the index of the " ++
           "limit.\n        :param state: the state of the setting.\n        :param value: " ++
           "the value of the setting, an integer or a string.\n        "
       code :=
         { positional := 4, flags := 3, line := 191, stack := 8,
           locals := ["self", "index", "state", "value", "msg", "name"],
           names :=
             ["isinstance", "State", "_", "XMLLimitsTypeError", "format", "type",
              "ENTITY_COUNT_INFO_INDEX", "str", "entity_count_info", "YES", "_check_index",
              "limits", "api_property", "_set_value", "parse_limit_value"],
           constants :=
             [.text "invalid type \x7b!r\x7d for state, must be a \x7b!r\x7d", .absent] }
       annotations :=
         [("index", .kind "int"), ("state", .kind "State"),
          ("value", union "typing.Union[str, int]" .absent [.kind "str", .kind "int"]),
          ("return", .value .absent)] },
     { name := "_check_index"
       home := "xmllimits.registry"
       code :=
         { positional := 2, flags := 3, line := 216, stack := 5, locals := ["self", "index"],
           names :=
             ["isinstance", "bool", "int", "len", "limits", "XMLLimitsValueError", "_",
              "format"],
           constants := [.absent, .int 0, .text "invalid limit index \x7b!r\x7d"] }
       annotations := [("index", .kind "int"), ("return", .value .absent)] },
     { name := "get_index"
       home := "xmllimits.registry"
       description :=
         "\n        Gets the index of a limit by property name. Both API and system\n    " ++
           "    property names are recognized.\n\n        :param property_name: the " ++
           "property name.\n        :return: the index of the property if found, -1 " ++
           "otherwise.\n        "
       code :=
         { positional := 2, flags := 3, line := 221, stack := 3,
           locals := ["self", "property_name", "k", "limit"],
           names :=
             ["enumerate", "limits", "api_property", "system_property", "ENTITY_COUNT_INFO",
              "ENTITY_COUNT_INFO_INDEX"],
           constants := [.int (-1)] }
       annotations := [("property_name", .kind "str"), ("return", .kind "int")] },
     { name := "get_limit"
       home := "xmllimits.registry"
       description := "Returns the value of a limit."
       code :=
         { positional := 2, flags := 3, line := 238, stack := 4, locals := ["self", "limit"],
           names := ["values", "_ordinal"] }
       annotations := [("limit", .kind "LimitType"), ("return", .kind "int")] },
     { name := "get_limit_by_index"
       home := "xmllimits.registry"
       code :=
         { positional := 2, flags := 3, line := 242, stack := 3, locals := ["self", "index"],
           names := ["_check_index", "values"], constants := [.absent] }
       annotations := [("index", .kind "int"), ("return", .kind "int")] },
     { name := "get_limit_value_as_string"
       home := "xmllimits.registry"
       code :=
         { positional := 2, flags := 3, line := 246, stack := 6, locals := ["self", "limit"],
           names := ["str", "values", "_ordinal"], constants := [.absent] }
       annotations := [("limit", .kind "LimitType"), ("return", .kind "str")] },
     { name := "get_limit_value_by_index"
       home := "xmllimits.registry"
       code :=
         { positional := 2, flags := 3, line := 249, stack := 4, locals := ["self", "index"],
           names :=
             ["ENTITY_COUNT_INFO_INDEX", "entity_count_info", "_check_index", "str", "values"],
           constants := [.absent] }
       annotations := [("index", .kind "int"), ("return", .kind "str")] },
     { name := "get_limit_as_string"
       home := "xmllimits.registry"
       description :=
         "\n        Returns the value of a property as a string, or `None` if the\n      " ++
           "  property is not managed by the registry.\n        "
       code :=
         { positional := 2, flags := 3, line := 255, stack := 3,
           locals := ["self", "property_name", "index"],
           names := ["get_index", "get_limit_value_by_index"], constants := [.int 0, .absent] }
       annotations :=
         [("property_name", .kind "str"),
          ("return",
           union "typing.Optional[str]" (.text "Optional") [.kind "str", .kind "NoneType"])] },
     { name := "get_state"
       home := "xmllimits.registry"
       description := "Returns the state of the setting of a limit."
       code :=
         { positional := 2, flags := 3, line := 265, stack := 4, locals := ["self", "limit"],
           names := ["states", "_ordinal"] }
       annotations := [("limit", .kind "LimitType"), ("return", .kind "State")] },
     { name := "get_state_literal"
       home := "xmllimits.registry"
       code :=
         { positional := 2, flags := 3, line := 269, stack := 4, locals := ["self", "limit"],
           names := ["states", "_ordinal", "literal"], constants := [.absent] }
       annotations := [("limit", .kind "LimitType"), ("return", .kind "str")] },
     { name := "is_set"
       home := "xmllimits.registry"
       description := "Returns `True` if the limit has been explicitly set."
       code :=
         { positional := 2, flags := 3, line := 272, stack := 4, locals := ["self", "limit"],
           names := ["is_set_flags", "_ordinal"] }
       annotations := [("limit", .kind "LimitType"), ("return", .kind "bool")] },
     { name := "is_set_by_index"
       home := "xmllimits.registry"
       code :=
         { positional := 2, flags := 3, line := 276, stack := 3, locals := ["self", "index"],
           names := ["_check_index", "is_set_flags"], constants := [.absent] }
       annotations := [("index", .kind "int"), ("return", .kind "bool")] },
     { name := "print_entity_count_info"
       home := "xmllimits.registry"
       code :=
         { positional := 1, flags := 3, line := 280, stack := 2, locals := ["self"],
           names := ["entity_count_info", "YES"], constants := [.absent] }
       annotations := [("return", .kind "bool")] },
     { name := "items"
       home := "xmllimits.registry"
       description := "Iterates the managed limits with their values and states."
       code :=
         { positional := 1, flags := 35, line := 283, stack := 5, locals := ["self"],
           names := ["zip", "limits", "values", "states"], constants := [.absent] }
       annotations :=
         [("return",
           container
             ("collections.abc.Iterator[tuple[xmllimits.limits.LimitType, int, " ++
                "xmllimits.limits.State]]") (.kind "Iterator")
             [container "tuple[xmllimits.limits.LimitType, int, xmllimits.limits.State]"
                (.kind "tuple") [.kind "LimitType", .kind "int", .kind "State"]])] },
     { name := "as_dict"
       home := "xmllimits.registry"
       description := "Returns a dictionary with the values of the limits mapped by key."
       code :=
         { positional := 1, flags := 3, line := 287, stack := 5, locals := ["self"],
           names := ["zip", "limits", "values"], constants := [.absent] }
       annotations :=
         [("return", container "dict[str, int]" (.kind "dict") [.kind "str", .kind "int"])] }]
  cores :=
    [{ name := "__init__"
       home := "xmllimits.registry"
       code :=
         { positional := 6, flags := 3, line := 77, stack := 4,
           locals :=
             ["self", "secure_processing", "limits", "config", "legacy_names", "loglevel"],
           names :=
             ["secure_processing", "tuple", "Limit", "limits", "EnvironmentConfig", "config",
              "legacy_names", "enumerate", "_ordinals", "values", "State", "SECURE_PROCESSING",
              "len", "states", "DEFAULT", "is_set_flags", "entity_count_info",
              "_read_system_properties"],
           constants := [.absent, .absent, .absent, .absent, .bool false, .text ""] }
       defaults :=
         some
           [.value (.bool false), .value .absent, .value .absent, .value .absent, .value .absent]
       annotations :=
         [("secure_processing", .kind "bool"),
          ("limits",
           union "typing.Optional[collections.abc.Iterable[xmllimits.limits.LimitType]]"
             (.text "Optional")
             [container "collections.abc.Iterable[xmllimits.limits.LimitType]" (.kind "Iterable")
                [.kind "LimitType"],
              .kind "NoneType"]),
          ("config",
           union "typing.Optional[xmllimits.config.ConfigLoader]" (.text "Optional")
             [.kind "ConfigLoader", .kind "NoneType"]),
          ("legacy_names",
           union "typing.Optional[collections.abc.Mapping[str, str]]" (.text "Optional")
             [container "collections.abc.Mapping[str, str]" (.kind "Mapping")
                [.kind "str", .kind "str"],
              .kind "NoneType"]),
          ("loglevel",
           union "typing.Union[NoneType, str, int]" .absent
             [.kind "NoneType", .kind "str", .kind "int"]),
          ("return", .value .absent)] }]

def allRegistries : List Class :=
  [states, limits, limitPatterns, customLimits, registries]

end ProtectionLimits.Class

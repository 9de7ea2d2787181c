import ProtectionLimits.Exhibit.Class

/-!
Contract: the classes of options and of what has them.

Owns what these classes say about themselves and the features that they give to their
members.
-/

set_option autoImplicit false

namespace ProtectionLimits.Class

open Constant

def freeOptions : Class where
  name := "Option"
  home := "xmllimits.utils.descriptors"
  lineage := ["Option", "Generic", "object"]
  bases := ["Generic"]
  description :=
    "\n    A descriptor for handling validated options. If bound to a dataclass\n    the " ++
      "option can be changed, otherwise it's considered a read-only\n    optional " ++
      "argument.\n\n    :param default: The default value for the option.\n    "
  measures := ⟨40, 0, 0, 0, 546304⟩
  annotations := some []
  members :=
    [⟨"_default", none, ""⟩,
     ⟨"_name", none, ""⟩,
     ⟨"_owner", none, ""⟩]
  attributes :=
    [("__slots__", .value (.tuple [.text "_name", .text "_owner", .text "_default"])),
     ("__orig_bases__",
      .tuple
        [general "typing.Generic[~T]" .absent "Generic" "typing" (.kind "Generic")
           [classVariable "~T" "T" "xmllimits.utils.descriptors" []]
           [classVariable "~T" "T" "xmllimits.utils.descriptors" []]]),
     ("__parameters__", .tuple [classVariable "~T" "T" "xmllimits.utils.descriptors" []])]
  routines :=
    [{ name := "__init__"
       home := "xmllimits.utils.descriptors"
       code :=
         { positional := 1, keywordOnly := 1, flags := 3, line := 32, stack := 2,
           locals := ["self", "default"], names := ["_default"], constants := [.absent] }
       annotations :=
         [("default", classVariable "~T" "T" "xmllimits.utils.descriptors" []),
          ("return", .value .absent)] },
     { name := "__set_name__"
       home := "xmllimits.utils.descriptors"
       code :=
         { positional := 3, flags := 3, line := 35, stack := 2,
           locals := ["self", "owner", "name"], names := ["_name", "_owner"],
           constants := [.absent, .text "_"] }
       annotations :=
         [("owner", container "type[typing.Any]" (.kind "type") [.kind "Any"]),
          ("name", .kind "str"), ("return", .value .absent)] },
     { name := "__str__"
       home := "xmllimits.utils.descriptors"
       code :=
         { positional := 1, flags := 3, line := 39, stack := 5, locals := ["self"],
           names := ["is_dataclass", "_owner", "_", "format", "_name"],
           constants :=
             [.absent, .text "option \x7b!r\x7d", .int 1, .text "optional argument \x7b!r\x7d"] }
       annotations := [("return", .kind "str")] },
     { name := "__get__"
       home := "xmllimits.utils.descriptors"
       code :=
         { positional := 3, flags := 3, line := 44, stack := 7,
           locals := ["self", "instance", "owner"],
           names := ["cast", "T", "getattr", "_name", "AttributeError", "_default"],
           constants := [.absent] }
       annotations :=
         [("instance",
           union "typing.Optional[typing.Any]" (.text "Optional")
             [.kind "Any", .kind "NoneType"]),
          ("owner", container "type[typing.Any]" (.kind "type") [.kind "Any"]),
          ("return", classVariable "~T" "T" "xmllimits.utils.descriptors" [])] },
     { name := "__set__"
       home := "xmllimits.utils.descriptors"
       code :=
         { positional := 3, flags := 3, line := 50, stack := 7,
           locals := ["self", "instance", "value"],
           names :=
             ["hasattr", "_name", "is_dataclass", "_owner", "XMLLimitsAttributeError", "_",
              "format", "setattr", "validated_value"],
           constants := [.absent, .text "can't change \x7b\x7d"] }
       annotations :=
         [("instance", .kind "Any"), ("value", .kind "Any"), ("return", .value .absent)] },
     { name := "__delete__"
       home := "xmllimits.utils.descriptors"
       code :=
         { positional := 2, flags := 3, line := 55, stack := 5, locals := ["self", "instance"],
           names := ["XMLLimitsAttributeError", "_", "format"],
           constants := [.absent, .text "can't delete \x7b\x7d"] }
       annotations := [("instance", .kind "Any"), ("return", .value .absent)] },
     { name := "validated_value"
       home := "xmllimits.utils.descriptors"
       code :=
         { positional := 2, flags := 3, line := 58, stack := 4, locals := ["self", "value"],
           names := ["cast", "T"], constants := [.absent] }
       annotations :=
         [("value", .kind "Any"),
          ("return", classVariable "~T" "T" "xmllimits.utils.descriptors" [])] }]

def flagOptions : Class where
  name := "BooleanOption"
  home := "xmllimits.utils.descriptors"
  lineage := ["BooleanOption", "Option", "Generic", "object"]
  bases := ["Option"]
  measures := ⟨48, 0, -72, 40, 546320⟩
  annotations := some []
  data :=
    [⟨"__dict__", none, "dictionary for instance variables"⟩,
     ⟨"__weakref__", none, "list of weak references to the object"⟩]
  attributes :=
    [("__orig_bases__",
      .tuple
        [general "xmllimits.utils.descriptors.Option[bool]" .absent "Option"
           "xmllimits.utils.descriptors" (.kind "Option") [.kind "bool"] []]),
     ("__parameters__", .value (.tuple []))]
  routines :=
    [{ name := "validated_value"
       home := "xmllimits.utils.descriptors"
       code :=
         { positional := 2, flags := 3, line := 63, stack := 7,
           locals := ["self", "value", "msg"],
           names := ["isinstance", "bool", "_", "XMLLimitsTypeError", "format", "type"],
           constants :=
             [.absent,
              .text "invalid type \x7b!r\x7d for \x7b\x7d, must be of type \x7b!r\x7d"] }
       annotations := [("value", .kind "Any"), ("return", .kind "bool")] }]

def levelOptions : Class where
  name := "LogLevelOption"
  home := "xmllimits.utils.descriptors"
  lineage := ["LogLevelOption", "Option", "Generic", "object"]
  bases := ["Option"]
  measures := ⟨48, 0, -72, 40, 546320⟩
  annotations := some []
  data :=
    [⟨"__dict__", none, "dictionary for instance variables"⟩,
     ⟨"__weakref__", none, "list of weak references to the object"⟩]
  attributes :=
    [("__orig_bases__",
      .tuple
        [general "xmllimits.utils.descriptors.Option[typing.Union[NoneType, str, int]]" .absent
           "Option" "xmllimits.utils.descriptors" (.kind "Option")
           [union "typing.Union[NoneType, str, int]" .absent
              [.kind "NoneType", .kind "str", .kind "int"]] []]),
     ("__parameters__", .value (.tuple []))]
  routines :=
    [{ name := "validated_value"
       home := "xmllimits.utils.descriptors"
       code :=
         { positional := 2, flags := 3, line := 71, stack := 7,
           locals := ["self", "value", "msg"],
           names :=
             ["isinstance", "bool", "str", "int", "_", "XMLLimitsTypeError", "format", "type",
              "get_logging_level", "cast", "Union"],
           constants :=
             [.absent,
              .text "invalid type \x7b!r\x7d for \x7b\x7d, must be None, a str or an int"] }
       annotations :=
         [("value", .kind "Any"),
          ("return",
           union "typing.Union[NoneType, str, int]" .absent
             [.kind "NoneType", .kind "str", .kind "int"])] }]

def settingsObjects : Class where
  name := "LimitSettings"
  home := "xmllimits.settings"
  lineage := ["LimitSettings", "object"]
  bases := ["object"]
  description := "Settings for creating the limit registries of processing sessions."
  measures := ⟨24, 0, -48, 16, 546320⟩
  annotations :=
    some [("secure_processing", .kind "BooleanOption"), ("loglevel", .kind "LogLevelOption")]
  data :=
    [⟨"__dict__", none, "dictionary for instance variables"⟩,
     ⟨"__weakref__", none, "list of weak references to the object"⟩]
  attributes :=
    [("__dataclass_params__",
      .shown "_DataclassParams"
        ("_DataclassParams(init=True,repr=True,eq=True,order=False,unsafe_hash" ++
           "=False,frozen=False)")
        [("init", .value (.bool true)), ("repr", .value (.bool true)),
         ("eq", .value (.bool true)), ("order", .value (.bool false)),
         ("unsafe_hash", .value (.bool false)), ("frozen", .value (.bool false))]),
     ("__dataclass_fields__",
      .mapping "dict"
        [(.text "secure_processing",
          recordField "secure_processing" (.kind "BooleanOption") (.value (.bool false))),
         (.text "loglevel", recordField "loglevel" (.kind "LogLevelOption") (.value .absent))]),
     ("__hash__", .value .absent),
     ("__match_args__", .value (.tuple [.text "secure_processing", .text "loglevel"]))]
  routines :=
    [{ name := "get_settings"
       home := "xmllimits.settings"
       sort := .ofClass
       code :=
         { positional := 1, flags := 11, line := 34, stack := 5,
           locals := ["cls", "kwargs", "settings", "msg"],
           names :=
             ["pop", "_DEFAULT_LIMIT_SETTINGS", "isinstance", "LimitSettings", "_",
              "XMLLimitsTypeError", "format", "dc", "replace"],
           constants :=
             [.absent, .text "settings",
              .text "expected a LimitSettings instance for 'settings', got \x7b!r\x7d'"] }
       annotations := [("kwargs", .kind "Any"), ("return", text "LimitSettings")] },
     { name := "update_defaults"
       home := "xmllimits.settings"
       sort := .ofClass
       code :=
         { positional := 1, flags := 11, line := 42, stack := 5, locals := ["cls", "kwargs"],
           names := ["LimitSettings", "get_settings", "_DEFAULT_LIMIT_SETTINGS"],
           constants := [.absent, .tuple []] }
       annotations := [("kwargs", .kind "Any"), ("return", .value .absent)] },
     { name := "reset_defaults"
       home := "xmllimits.settings"
       sort := .ofClass
       code :=
         { positional := 1, flags := 3, line := 47, stack := 2, locals := ["cls"],
           names := ["LimitSettings", "_DEFAULT_LIMIT_SETTINGS"], constants := [.absent] }
       annotations := [("return", .value .absent)] },
     { name := "get_registry"
       home := "xmllimits.settings"
       description :=
         "\n        Returns a new :class:`LimitRegistry` instance built with the " ++
           "settings.\n\n        :param config: optional loader of system settings, for " ++
           "default         the environment variables are used.\n        :param kwargs: " ++
           "other optional arguments for the registry, like an         alternative limits " ++
           "table.\n        "
       code :=
         { positional := 2, flags := 11, line := 52, stack := 7,
           locals := ["self", "config", "kwargs"],
           names := ["LimitRegistry", "secure_processing", "loglevel"],
           constants :=
             [.tuple [.text "secure_processing", .text "config", .text "loglevel"], .tuple []] }
       defaults := some [.value .absent]
       annotations :=
         [("config",
           union "typing.Optional[xmllimits.config.ConfigLoader]" (.text "Optional")
             [.kind "ConfigLoader", .kind "NoneType"]),
          ("kwargs", .kind "Any"), ("return", .kind "LimitRegistry")] },
     { name := "__init__"
       home := "xmllimits.settings"
       code :=
         { title := "__create_fn__.<locals>.__init__", source := some "<string>",
           positional := 3, flags := 19, line := 2, stack := 2,
           locals := ["self", "secure_processing", "loglevel"],
           names := ["secure_processing", "loglevel"], constants := [.absent] }
       defaults := some [.value (.bool false), .value .absent]
       annotations :=
         [("secure_processing", .kind "BooleanOption"), ("loglevel", .kind "LogLevelOption"),
          ("return", .value .absent)] },
     { name := "__repr__"
       home := "xmllimits.settings"
       code :=
         { name := "wrapper", title := "_recursive_repr.<locals>.wrapper", positional := 1,
           flags := 19, line := 233, stack := 5, locals := ["self", "key", "result"],
           names := ["id", "_thread", "get_ident", "add", "discard"],
           free := ["repr_running", "user_function"], constants := [.absent, .text "..."] }
       isOuter := true },
     { name := "__eq__"
       home := "xmllimits.settings"
       code :=
         { title := "__create_fn__.<locals>.__eq__", source := some "<string>", positional := 2,
           flags := 19, line := 2, stack := 3, locals := ["self", "other"],
           names := ["__class__", "secure_processing", "loglevel", "NotImplemented"],
           constants := [.absent] } }]
  cores :=
    [{ name := "__repr__"
       title := "__create_fn__.<locals>.__repr__"
       home := "xmllimits.settings"
       code :=
         { source := some "<string>", positional := 1, flags := 19, line := 2, stack := 6,
           locals := ["self"],
           names := ["__class__", "__qualname__", "secure_processing", "loglevel"],
           constants :=
             [.absent, .text "(secure_processing=", .text ", loglevel=", .text ")"] } }]

def plainObjects : Class where
  name := "Plain"
  home := "__main__"
  lineage := ["Plain", "object"]
  bases := ["object"]
  measures := ⟨24, 0, -48, 16, 546320⟩
  annotations := some []
  data :=
    [⟨"__dict__", none, "dictionary for instance variables"⟩,
     ⟨"__weakref__", none, "list of weak references to the object"⟩]

def dataObjects : Class where
  name := "Data"
  home := "__main__"
  lineage := ["Data", "object"]
  bases := ["object"]
  description :=
    "Data(flag: xmllimits.utils.descriptors.BooleanOption = True, level: " ++
      "xmllimits.utils.descriptors.LogLevelOption = 'INFO', text: " ++
      "xmllimits.utils.descriptors.Option = None)"
  measures := ⟨24, 0, -48, 16, 546320⟩
  annotations :=
    some
      [("flag", .kind "BooleanOption"), ("level", .kind "LogLevelOption"),
       ("text", .kind "Option")]
  data :=
    [⟨"__dict__", none, "dictionary for instance variables"⟩,
     ⟨"__weakref__", none, "list of weak references to the object"⟩]
  attributes :=
    [("__dataclass_params__",
      .shown "_DataclassParams"
        ("_DataclassParams(init=True,repr=True,eq=True,order=False,unsafe_hash" ++
           "=False,frozen=False)")
        [("init", .value (.bool true)), ("repr", .value (.bool true)),
         ("eq", .value (.bool true)), ("order", .value (.bool false)),
         ("unsafe_hash", .value (.bool false)), ("frozen", .value (.bool false))]),
     ("__dataclass_fields__",
      .mapping "dict"
        [(.text "flag", recordField "flag" (.kind "BooleanOption") (.value (.bool true))),
         (.text "level", recordField "level" (.kind "LogLevelOption") (text "INFO")),
         (.text "text", recordField "text" (.kind "Option") (.value .absent))]),
     ("__hash__", .value .absent),
     ("__match_args__", .value (.tuple [.text "flag", .text "level", .text "text"]))]
  routines :=
    [{ name := "__init__"
       home := "__main__"
       code :=
         { title := "__create_fn__.<locals>.__init__", source := some "<string>",
           positional := 4, flags := 19, line := 2, stack := 2,
           locals := ["self", "flag", "level", "text"], names := ["flag", "level", "text"],
           constants := [.absent] }
       defaults := some [.value (.bool true), text "INFO", .value .absent]
       annotations :=
         [("flag", .kind "BooleanOption"), ("level", .kind "LogLevelOption"),
          ("text", .kind "Option"), ("return", .value .absent)] },
     { name := "__repr__"
       home := "__main__"
       code :=
         { name := "wrapper", title := "_recursive_repr.<locals>.wrapper", positional := 1,
           flags := 19, line := 233, stack := 5, locals := ["self", "key", "result"],
           names := ["id", "_thread", "get_ident", "add", "discard"],
           free := ["repr_running", "user_function"], constants := [.absent, .text "..."] }
       isOuter := true },
     { name := "__eq__"
       home := "__main__"
       code :=
         { title := "__create_fn__.<locals>.__eq__", source := some "<string>", positional := 2,
           flags := 19, line := 2, stack := 4, locals := ["self", "other"],
           names := ["__class__", "flag", "level", "text", "NotImplemented"],
           constants := [.absent] } }]
  cores :=
    [{ name := "__repr__"
       title := "__create_fn__.<locals>.__repr__"
       home := "__main__"
       code :=
         { source := some "<string>", positional := 1, flags := 19, line := 2, stack := 8,
           locals := ["self"], names := ["__class__", "__qualname__", "flag", "level", "text"],
           constants :=
             [.absent, .text "(flag=", .text ", level=", .text ", text=", .text ")"] } }]

def allOptions : List Class :=
  [freeOptions, flagOptions, levelOptions, settingsObjects, plainObjects, dataObjects]

end ProtectionLimits.Class

import ProtectionLimits.Exhibit.Class

/-!
Contract: the classes of sources.

Owns what these classes say about themselves and the features that they give to their
members.
-/

set_option autoImplicit false

namespace ProtectionLimits.Class

open Constant

def loaders : Class where
  name := "ConfigLoader"
  home := "xmllimits.config"
  lineage := ["ConfigLoader", "object"]
  bases := ["object"]
  metaclass := "ABCMeta"
  description :=
    "\n    Base class for the collaborators that provide the system settings of\n    the " ++
      "limits. A loader returns the string value of a setting together with\n    the state " ++
      "that the setting has to take in the registry.\n    "
  measures := ⟨24, 0, -48, 16, 1594896⟩
  abstractRoutines := some ["get_property"]
  annotations := some []
  data :=
    [⟨"__dict__", none, "dictionary for instance variables"⟩,
     ⟨"__weakref__", none, "list of weak references to the object"⟩]
  routines :=
    [{ name := "get_property"
       home := "xmllimits.config"
       description :=
         "\n        Returns a couple with the string value and the state of a setting,\n " ++
           "       or `None` if the setting is not configured.\n\n        :param name: the " ++
           "name of the system property.\n        "
       code :=
         { positional := 2, flags := 3, line := 31, stack := 1, locals := ["self", "name"],
           constants := [.absent] }
       annotations :=
         [("name", .kind "str"),
          ("return",
           union "typing.Optional[tuple[str, xmllimits.limits.State]]" (.text "Optional")
             [container "tuple[str, xmllimits.limits.State]" (.kind "tuple")
                [.kind "str", .kind "State"],
              .kind "NoneType"])]
       isAbstract := true }]

def sources : Class where
  name := "EnvironmentConfig"
  home := "xmllimits.config"
  lineage := ["EnvironmentConfig", "ConfigLoader", "object"]
  bases := ["ConfigLoader"]
  metaclass := "ABCMeta"
  description :=
    "\n    A loader that looks up settings first in environment variables and then\n    " ++
      "in the settings loaded from a configuration file. The reading of the file\n    is " ++
      "up to the caller, that provides the settings as a mapping.\n\n    :param environ: " ++
      "the environment variables, for default `os.environ`.\n    :param settings: optional " ++
      "mapping of the settings of a configuration file.\n    "
  measures := ⟨24, 0, -48, 16, 546320⟩
  abstractRoutines := some []
  annotations := some []
  routines :=
    [{ name := "__init__"
       home := "xmllimits.config"
       code :=
         { positional := 3, flags := 3, line := 50, stack := 7,
           locals := ["self", "environ", "settings", "msg"],
           names :=
             ["os", "environ", "isinstance", "Mapping", "_", "XMLLimitsTypeError", "format",
              "type", "settings"],
           constants :=
             [.absent, .text "invalid type \x7b!r\x7d for environ, must be a mapping",
              .text "invalid type \x7b!r\x7d for settings, must be a mapping"] }
       defaults := some [.value .absent, .value .absent]
       annotations :=
         [("environ",
           union "typing.Optional[collections.abc.Mapping[str, str]]" (.text "Optional")
             [container "collections.abc.Mapping[str, str]" (.kind "Mapping")
                [.kind "str", .kind "str"],
              .kind "NoneType"]),
          ("settings",
           union "typing.Optional[collections.abc.Mapping[str, str]]" (.text "Optional")
             [container "collections.abc.Mapping[str, str]" (.kind "Mapping")
                [.kind "str", .kind "str"],
              .kind "NoneType"]),
          ("return", .value .absent)] },
     { name := "__repr__"
       home := "xmllimits.config"
       code :=
         { positional := 1, flags := 3, line := 67, stack := 5, locals := ["self"],
           names := ["__class__", "__name__", "dict", "settings"],
           constants := [.absent, .text "(settings=", .text ")"] }
       annotations := [("return", .kind "str")] },
     { name := "get_property"
       home := "xmllimits.config"
       code :=
         { positional := 2, flags := 3, line := 70, stack := 3,
           locals := ["self", "name", "value"],
           names := ["environ", "get", "State", "ENVIRONMENT", "settings", "CONFIG_FILE"],
           constants := [.absent] }
       annotations :=
         [("name", .kind "str"),
          ("return",
           union "typing.Optional[tuple[str, xmllimits.limits.State]]" (.text "Optional")
             [container "tuple[str, xmllimits.limits.State]" (.kind "tuple")
                [.kind "str", .kind "State"],
              .kind "NoneType"])] }]

def allSources : List Class :=
  [loaders, sources]

end ProtectionLimits.Class

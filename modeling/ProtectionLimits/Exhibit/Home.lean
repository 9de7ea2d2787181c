import ProtectionLimits.Exhibit.Class

/-!
Contract: what stands beside the functions of a home.

Owns the homes of the library, each with its constants and its functions by their
names. A function sees all of its home.
-/

set_option autoImplicit false

namespace ProtectionLimits

/-- A home: its name, what it says about itself, its constants and its functions. -/
structure Home where
  name : String
  description : String := ""
  attributes : List (String × Constant) := []
  routines : List Routine := []

namespace Home

open Constant

def errorHome : Home where
  name := "xmllimits.exceptions"
  description := "\nThis module contains the exception classes of the package.\n"
  attributes :=
    [("__package__", text "xmllimits"),
     ("Any", .kind "Any"),
     ("Optional", form "Optional"),
     ("XMLLimitsException", .kind "XMLLimitsException"),
     ("XMLLimitsAttributeError", .kind "XMLLimitsAttributeError"),
     ("XMLLimitsTypeError", .kind "XMLLimitsTypeError"),
     ("XMLLimitsValueError", .kind "XMLLimitsValueError"),
     ("XMLLimitsNumberError", .kind "XMLLimitsNumberError"),
     ("__all__",
      .value
        (.list
           [.text "XMLLimitsException", .text "XMLLimitsAttributeError",
            .text "XMLLimitsTypeError", .text "XMLLimitsValueError",
            .text "XMLLimitsNumberError"]))]

def limitHome : Home where
  name := "xmllimits.limits"
  description :=
    "\nTables of the protection limits managed by the package and of the states\nof " ++
      "their settings. A limit value of 0 means that the limit is not applied.\n"
  attributes :=
    [("__package__", text "xmllimits"),
     ("Enum", .kind "Enum"),
     ("IntEnum", .kind "IntEnum"),
     ("MappingProxyType", .kind "mappingproxy"),
     ("Optional", form "Optional"),
     ("Protocol", .kind "Protocol"),
     ("__all__",
      .value
        (.list
           [.text "ENTITY_COUNT_INFO", .text "ENTITY_COUNT_INFO_INDEX", .text "YES",
            .text "LEGACY_NAMES", .text "State", .text "LimitType", .text "Limit",
            .text "get_legacy_name"])),
     ("ENTITY_COUNT_INFO", text "entity_count_info"),
     ("ENTITY_COUNT_INFO_INDEX", .value (.int 10000)),
     ("YES", text "yes"),
     ("State", .kind "State"),
     ("LimitType", .kind "LimitType"),
     ("Limit", .kind "Limit"),
     ("LEGACY_NAMES",
      .mapping "mappingproxy"
        [(.text "XMLLIMITS_ENTITY_EXPANSION_LIMIT", text "ENTITY_EXPANSION_LIMIT"),
         (.text "XMLLIMITS_MAX_OCCUR_LIMIT", text "MAX_OCCUR_LIMIT"),
         (.text "XMLLIMITS_ELEMENT_ATTRIBUTE_LIMIT", text "ELEMENT_ATTRIBUTE_LIMIT")])]
  routines :=
    [{ name := "get_legacy_name"
       home := "xmllimits.limits"
       description :=
         "\n    Returns the old name of a system property, or `None` if the\n    " ++
           "property has never been renamed.\n    "
       code :=
         { positional := 2, flags := 3, line := 125, stack := 3,
           locals := ["system_property", "legacy_names"], names := ["LEGACY_NAMES", "get"] }
       defaults := some [.value .absent]
       annotations :=
         [("system_property", .kind "str"),
          ("legacy_names",
           union "typing.Optional[typing.Mapping[str, str]]" (.text "Optional")
             [general "typing.Mapping[str, str]" (.text "Mapping") "Mapping" "typing"
                (.kind "Mapping") [.kind "str", .kind "str"] [],
              .kind "NoneType"]),
          ("return",
           union "typing.Optional[str]" (.text "Optional") [.kind "str", .kind "NoneType"])] }]

def sourceHome : Home where
  name := "xmllimits.config"
  description := "\nSources of system settings used for initializing the limits of a registry.\n"
  attributes :=
    [("__package__", text "xmllimits"),
     ("os", place "os"),
     ("ABCMeta", .kind "ABCMeta"),
     ("Mapping", .kind "Mapping"),
     ("Optional", form "Optional"),
     ("XMLLimitsTypeError", .kind "XMLLimitsTypeError"),
     ("State", .kind "State"),
     ("_", .feature "xmllimits.translation" "gettext"),
     ("__all__", .value (.list [.text "ConfigLoader", .text "EnvironmentConfig"])),
     ("ConfigLoader", .kind "ConfigLoader"),
     ("EnvironmentConfig", .kind "EnvironmentConfig")]

def registryHome : Home where
  name := "xmllimits.registry"
  description :=
    "\nThis module contains the registry of the protection limits of an XML\nprocessing " ++
      "session.\n"
  attributes :=
    [("__package__", text "xmllimits"),
     ("Iterable", .kind "Iterable"),
     ("Iterator", .kind "Iterator"),
     ("Mapping", .kind "Mapping"),
     ("Optional", form "Optional"),
     ("Union", form "Union"),
     ("datatypes", place "elementpath.datatypes"),
     ("XMLLimitsNumberError", .kind "XMLLimitsNumberError"),
     ("XMLLimitsTypeError", .kind "XMLLimitsTypeError"),
     ("XMLLimitsValueError", .kind "XMLLimitsValueError"),
     ("_", .feature "xmllimits.translation" "gettext"),
     ("logged", .feature "xmllimits.utils.logger" "logged"),
     ("ENTITY_COUNT_INFO", text "entity_count_info"),
     ("ENTITY_COUNT_INFO_INDEX", .value (.int 10000)),
     ("YES", text "yes"),
     ("LimitType", .kind "LimitType"),
     ("Limit", .kind "Limit"),
     ("State", .kind "State"),
     ("get_legacy_name", .feature "xmllimits.limits" "get_legacy_name"),
     ("ConfigLoader", .kind "ConfigLoader"),
     ("EnvironmentConfig", .kind "EnvironmentConfig"),
     ("__all__", .value (.list [.text "LimitRegistry", .text "parse_limit_value"])),
     ("LimitRegistry", .kind "LimitRegistry")]
  routines :=
    [{ name := "parse_limit_value"
       home := "xmllimits.registry"
       description :=
         "\n    Returns the value of a limit from an integer or from a string that has\n " ++
           "   the lexical form of an *xs:int*. Negative values are changed to 0.\n\n    " ++
           ":param value: the integer or the string to parse.\n    :param name: the name " ++
           "of the setting, used for error messages.\n    "
       code :=
         { positional := 2, flags := 3, line := 30, stack := 7,
           locals := ["value", "name", "msg"],
           names :=
             ["isinstance", "bool", "int", "str", "_", "XMLLimitsTypeError", "format", "type",
              "datatypes", "Integer", "pattern", "match", "XMLLimitsNumberError", "Int",
              "ValueError"],
           constants :=
             [.text "invalid type \x7b!r\x7d for a limit value, must be an int or a str",
              .absent,
              .text "invalid setting \x7b!r\x7d for property \x7b!r\x7d: not an integer",
              .text "invalid setting \x7b!r\x7d for property \x7b!r\x7d: out of range", .int 0] }
       defaults := some [.value .absent]
       annotations :=
         [("value", union "typing.Union[str, int]" .absent [.kind "str", .kind "int"]),
          ("name",
           union "typing.Optional[str]" (.text "Optional") [.kind "str", .kind "NoneType"]),
          ("return", .kind "int")] }]

def settingsHome : Home where
  name := "xmllimits.settings"
  description := "Package settings for building limit registries."
  attributes :=
    [("__package__", text "xmllimits"),
     ("dc", place "dataclasses"),
     ("Any", .kind "Any"),
     ("Optional", form "Optional"),
     ("XMLLimitsTypeError", .kind "XMLLimitsTypeError"),
     ("_", .feature "xmllimits.translation" "gettext"),
     ("BooleanOption", .kind "BooleanOption"),
     ("LogLevelOption", .kind "LogLevelOption"),
     ("ConfigLoader", .kind "ConfigLoader"),
     ("LimitRegistry", .kind "LimitRegistry"),
     ("LimitSettings", .kind "LimitSettings")]
  routines :=
    [{ name := "get_default_settings"
       home := "xmllimits.settings"
       code :=
         { positional := 0, flags := 3, line := 74, stack := 1,
           names := ["_DEFAULT_LIMIT_SETTINGS"], constants := [.absent] }
       annotations := [("return", .kind "LimitSettings")] }]

def warningHome : Home where
  name := "xmllimits.diagnostics"
  description :=
    "\nDiagnostics about parsers that don't support a protection property.\nEach warning " ++
      "is printed only once for a parser and a property.\n"
  attributes :=
    [("__package__", text "xmllimits"),
     ("sys", place "sys"),
     ("threading", place "threading"),
     ("Optional", form "Optional"),
     ("TextIO", .kind "TextIO"),
     ("Union", form "Union"),
     ("__all__",
      .value (.list [.text "PrintedWarnings", .text "printed_warnings", .text "print_warning"])),
     ("PrintedWarnings", .kind "PrintedWarnings")]
  routines :=
    [{ name := "print_warning"
       home := "xmllimits.diagnostics"
       description :=
         "\n    Prints out a warning if a parser does not support the specified\n    " ++
           "feature or property. The warning is printed only the first time.\n\n    :param " ++
           "parser_class_name: the name of the parser class.\n    :param property_name: " ++
           "the property name.\n    :param error: the error raised by the parser or a " ++
           "message.\n    :param warnings: the set of printed warnings, for default the " ++
           "set of     the warnings printed by the process.\n    :param stream: the output " ++
           "stream, for default `sys.stderr`.\n    :return: `True` if the warning is " ++
           "printed, `False` otherwise.\n    "
       code :=
         { positional := 5, flags := 3, line := 64, stack := 7,
           locals := ["parser_class_name", "property_name", "error", "warnings", "stream"],
           names :=
             ["printed_warnings", "add_if_absent", "sys", "stderr", "write", "Exception",
              "discard"],
           constants :=
             [.absent, .bool false, .text "Warning: ", .text ": ", .text "\n", .bool true] }
       defaults := some [.value .absent, .value .absent]
       annotations :=
         [("parser_class_name", .kind "str"), ("property_name", .kind "str"),
          ("error",
           union "typing.Union[str, Exception]" .absent [.kind "str", .kind "Exception"]),
          ("warnings",
           union "typing.Optional[xmllimits.diagnostics.PrintedWarnings]" (.text "Optional")
             [.kind "PrintedWarnings", .kind "NoneType"]),
          ("stream",
           union "typing.Optional[typing.TextIO]" (.text "Optional")
             [.kind "TextIO", .kind "NoneType"]),
          ("return", .kind "bool")] }]

def translationHome : Home where
  name := "xmllimits.translation"
  description :=
    "\nTranslation of the error and diagnostic messages of the package.\n\nNo message " ++
      "catalogs are shipped with the package: the default *locale*\nsubdirectory is looked " ++
      "up only if added by a distribution, otherwise a\ncatalog directory has to be " ++
      "provided with the *localedir* argument.\n"
  attributes :=
    [("__package__", text "xmllimits"),
     ("_gettext", place "gettext"),
     ("Any", .kind "Any"),
     ("Optional", form "Optional"),
     ("Union", form "Union"),
     ("__all__",
      .value (.list [.text "activate", .text "deactivate", .text "is_active", .text "gettext"])),
     ("TRANSLATION_DOMAIN", text "xmllimits"),
     ("_translation", .value .absent),
     ("_installed", .value (.bool false))]
  routines :=
    [{ name := "activate"
       home := "xmllimits.translation"
       description :=
         "\n    Activate the translation of xmllimits messages. A previously\n    " ++
           "activated translation is replaced.\n\n    :param localedir: a string or " ++
           "Path-like object to locale directory,     for default is the *locale* " ++
           "subdirectory of the package.\n    :param languages: list of language codes.\n  " ++
           "  :param fallback: if `True`, the default, a missing catalog activates     a " ++
           "null translation instead of raising an `OSError`.\n    :param install: if " ++
           "`True` installs function _() in Python’s builtins namespace.\n    "
       code :=
         { positional := 4, flags := 3, line := 30, stack := 6,
           locals := ["localedir", "languages", "fallback", "install", "translation"],
           names :=
             ["_gettext", "translation", "TRANSLATION_DOMAIN", "LOCALE_DIR", "deactivate",
              "_translation", "install", "_installed"],
           constants :=
             [.absent,
              .tuple [.text "domain", .text "localedir", .text "languages", .text "fallback"],
              .bool true] }
       defaults :=
         some [.value .absent, .value .absent, .value (.bool true), .value (.bool false)]
       annotations :=
         [("languages",
           union "typing.Optional[typing.Iterable[str]]" (.text "Optional")
             [general "typing.Iterable[str]" (.text "Iterable") "Iterable" "typing"
                (.kind "Iterable") [.kind "str"] [],
              .kind "NoneType"]),
          ("fallback", .kind "bool"), ("install", .kind "bool"), ("return", .value .absent)] },
     { name := "deactivate"
       home := "xmllimits.translation"
       description := "Deactivate the translation of xmllimits messages."
       code :=
         { positional := 0, flags := 3, line := 62, stack := 3, locals := ["builtins"],
           names := ["_installed", "_translation", "builtins", "__dict__", "get", "gettext"],
           constants := [.absent, .int 0, .text "_", .bool false] }
       annotations := [("return", .value .absent)] },
     { name := "is_active"
       home := "xmllimits.translation"
       code :=
         { positional := 0, flags := 3, line := 76, stack := 2, names := ["_translation"],
           constants := [.absent] }
       annotations := [("return", .kind "bool")] },
     { name := "gettext"
       home := "xmllimits.translation"
       code :=
         { positional := 1, flags := 3, line := 80, stack := 6, locals := ["message"],
           names := ["_translation", "cast", "str", "gettext"], constants := [.absent] }
       annotations := [("message", .kind "str"), ("return", .kind "str")] }]

def optionHome : Home where
  name := "xmllimits.utils.descriptors"
  attributes :=
    [("__package__", text "xmllimits.utils"),
     ("Any", .kind "Any"),
     ("Generic", .kind "Generic"),
     ("Optional", form "Optional"),
     ("TypeVar", .kind "TypeVar"),
     ("Union", form "Union"),
     ("XMLLimitsAttributeError", .kind "XMLLimitsAttributeError"),
     ("XMLLimitsTypeError", .kind "XMLLimitsTypeError"),
     ("_", .feature "xmllimits.translation" "gettext"),
     ("get_logging_level", .feature "xmllimits.utils.logger" "get_logging_level"),
     ("__all__", .value (.list [.text "Option", .text "BooleanOption", .text "LogLevelOption"])),
     ("T", classVariable "~T" "T" "xmllimits.utils.descriptors" []),
     ("Option", .kind "Option"),
     ("BooleanOption", .kind "BooleanOption"),
     ("LogLevelOption", .kind "LogLevelOption")]

def logHome : Home where
  name := "xmllimits.utils.logger"
  attributes :=
    [("__package__", text "xmllimits.utils"),
     ("logging", place "logging"),
     ("Any", .kind "Any"),
     ("Optional", form "Optional"),
     ("TypeVar", .kind "TypeVar"),
     ("Union", form "Union"),
     ("XMLLimitsValueError", .kind "XMLLimitsValueError"),
     ("_", .feature "xmllimits.translation" "gettext"),
     ("LOG_LEVELS",
      .set "frozenset"
        [text "CRITICAL", text "DEBUG", text "ERROR", text "INFO", text "WARN", text "WARNING"]),
     ("RT", classVariable "~RT" "RT" "xmllimits.utils.logger" [])]
  routines :=
    [{ name := "get_logging_level"
       home := "xmllimits.utils.logger"
       description := "Returns the numeric logging level for a level name or number."
       code :=
         { positional := 1, flags := 3, line := 23, stack := 7, locals := ["level", "_level"],
           names :=
             ["isinstance", "str", "strip", "upper", "LOG_LEVELS", "XMLLimitsValueError", "_",
              "format", "int", "getattr", "logging", "bool", "TypeError", "type"],
           constants :=
             [.text "\x7b!r\x7d is not a valid loglevel",
              .text "invalid type \x7b!r\x7d for a loglevel"] }
       annotations :=
         [("level", union "typing.Union[str, int]" .absent [.kind "str", .kind "int"]),
          ("return", .kind "int")] },
     { name := "set_logging_level"
       home := "xmllimits.utils.logger"
       description := "Set the logging level of xmllimits's logger."
       code :=
         { positional := 1, flags := 3, line := 37, stack := 5, locals := ["level"],
           names := ["logger", "setLevel", "get_logging_level"], constants := [.absent] }
       annotations :=
         [("level", union "typing.Union[str, int]" .absent [.kind "str", .kind "int"]),
          ("return", .value .absent)] },
     { name := "logged"
       home := "xmllimits.utils.logger"
       description :=
         "\n    A decorator for activating a logging level for a function. The keyword\n " ++
           "   argument 'loglevel' is obtained from the keyword arguments and used by the\n" ++
           "    wrapper function to set the logging level of the decorated function and\n  " ++
           "  to restore the original level after the call.\n    "
       code :=
         { positional := 1, flags := 3, line := 45, stack := 7, locals := ["func", "wrapper"],
           names := ["wraps", "Any", "RT"], cells := ["func"],
           constants := [.text "args", .text "kwargs", .text "return", .absent] } }]

def all : List Home :=
  [errorHome, limitHome, sourceHome, registryHome, settingsHome, warningHome, translationHome,
    optionHome, logHome]

def ofName? (name : String) : Option Home := all.find? fun home => home.name == name

end Home

end ProtectionLimits

import ProtectionLimits.Exhibit.Class

/-!
Contract: the classes of errors.

Owns what these classes say about themselves and the features that they give to their
members.
-/

set_option autoImplicit false

namespace ProtectionLimits.Class

open Constant

def failures : Class where
  name := "BaseException"
  home := "builtins"
  lineage := ["BaseException", "object"]
  bases := ["object"]
  description := "Common base class for all exceptions"
  measures := ⟨72, 0, 16, 0, 1074287872⟩
  methods :=
    [⟨"__reduce__", none, ""⟩,
     ⟨"__setstate__", none, ""⟩,
     ⟨"with_traceback", none,
      "Exception.with_traceback(tb) --\n    set self.__traceback__ to tb and return self."⟩,
     ⟨"add_note", none, "Exception.add_note(note) --\n    add a note to the exception"⟩]
  data :=
    [⟨"__dict__", none, ""⟩,
     ⟨"args", none, ""⟩,
     ⟨"__traceback__", none, ""⟩,
     ⟨"__context__", none, "exception context"⟩,
     ⟨"__cause__", none, "exception cause"⟩]
  members :=
    [⟨"__suppress_context__", none, ""⟩]
  functions :=
    [⟨"__new__", some "($type, *args, **kwargs)",
      "Create and return a new object.  See help(type) for accurate signature."⟩]
  operators :=
    ["__repr__", "__str__", "__getattribute__", "__setattr__", "__delattr__", "__init__"]

def errors : Class where
  name := "Exception"
  home := "builtins"
  lineage := ["Exception", "BaseException", "object"]
  bases := ["BaseException"]
  description := "Common base class for all non-exit exceptions."
  measures := ⟨72, 0, 16, 0, 1074287872⟩
  functions :=
    [⟨"__new__", some "($type, *args, **kwargs)",
      "Create and return a new object.  See help(type) for accurate signature."⟩]
  operators := ["__init__"]

def missingParts : Class where
  name := "AttributeError"
  home := "builtins"
  lineage := ["AttributeError", "Exception", "BaseException", "object"]
  bases := ["Exception"]
  description := "Attribute not found."
  measures := ⟨88, 0, 16, 0, 1074287872⟩
  members :=
    [⟨"name", none, "attribute name"⟩,
     ⟨"obj", none, "object"⟩]
  operators := ["__str__", "__init__"]

def kindErrors : Class where
  name := "TypeError"
  home := "builtins"
  lineage := ["TypeError", "Exception", "BaseException", "object"]
  bases := ["Exception"]
  description := "Inappropriate argument type."
  measures := ⟨72, 0, 16, 0, 1074287872⟩
  functions :=
    [⟨"__new__", some "($type, *args, **kwargs)",
      "Create and return a new object.  See help(type) for accurate signature."⟩]
  operators := ["__init__"]

def valueErrors : Class where
  name := "ValueError"
  home := "builtins"
  lineage := ["ValueError", "Exception", "BaseException", "object"]
  bases := ["Exception"]
  description := "Inappropriate argument value (of correct type)."
  measures := ⟨72, 0, 16, 0, 1074287872⟩
  functions :=
    [⟨"__new__", some "($type, *args, **kwargs)",
      "Create and return a new object.  See help(type) for accurate signature."⟩]
  operators := ["__init__"]

def limitErrors : Class where
  name := "XMLLimitsException"
  home := "xmllimits.exceptions"
  lineage := ["XMLLimitsException", "Exception", "BaseException", "object"]
  bases := ["Exception"]
  description := "The base class of all xmllimits specific errors."
  measures := ⟨80, 0, 16, 72, 1074288128⟩
  annotations := some []
  data :=
    [⟨"__weakref__", none, "list of weak references to the object"⟩]

/-- The class of errors about the options of settings. -/
def limitAttributeErrors : Class where
  name := "XMLLimitsAttributeError"
  home := "xmllimits.exceptions"
  lineage :=
    ["XMLLimitsAttributeError", "XMLLimitsException", "AttributeError", "Exception",
     "BaseException", "object"]
  bases := ["XMLLimitsException", "AttributeError"]
  mainBase := "AttributeError"
  measures := ⟨96, 0, 16, 88, 1074288128⟩
  annotations := some []
  data :=
    [⟨"__weakref__", none, "list of weak references to the object"⟩]

def limitTypeErrors : Class where
  name := "XMLLimitsTypeError"
  home := "xmllimits.exceptions"
  lineage :=
    ["XMLLimitsTypeError", "XMLLimitsException", "TypeError", "Exception", "BaseException",
     "object"]
  bases := ["XMLLimitsException", "TypeError"]
  measures := ⟨80, 0, 16, 72, 1074288128⟩
  annotations := some []

def limitValueErrors : Class where
  name := "XMLLimitsValueError"
  home := "xmllimits.exceptions"
  lineage :=
    ["XMLLimitsValueError", "XMLLimitsException", "ValueError", "Exception", "BaseException",
     "object"]
  bases := ["XMLLimitsException", "ValueError"]
  measures := ⟨80, 0, 16, 72, 1074288128⟩
  annotations := some []

/-- The class of errors about the numeral of a setting. -/
def limitNumberErrors : Class where
  name := "XMLLimitsNumberError"
  home := "xmllimits.exceptions"
  lineage :=
    ["XMLLimitsNumberError", "XMLLimitsValueError", "XMLLimitsException", "ValueError",
     "Exception", "BaseException", "object"]
  bases := ["XMLLimitsValueError"]
  description :=
    "\n    Raised when the setting of a limit is not a valid integer.\n\n    :param " ++
      "message: the error message.\n    :param name: the name of the property that has the " ++
      "malformed setting.\n    :param value: the malformed value.\n    "
  measures := ⟨80, 0, 16, 72, 1074288128⟩
  annotations := some []
  routines :=
    [{ name := "__init__"
       home := "xmllimits.exceptions"
       code :=
         { positional := 4, flags := 3, line := 40, stack := 3,
           locals := ["self", "message", "name", "value"],
           names := ["super", "__init__", "message", "name", "value"], free := ["__class__"],
           constants := [.absent] }
       defaults := some [.value .absent, .value .absent]
       annotations :=
         [("message", .kind "str"),
          ("name",
           union "typing.Optional[str]" (.text "Optional") [.kind "str", .kind "NoneType"]),
          ("value", .kind "Any"), ("return", .value .absent)] },
     { name := "__str__"
       home := "xmllimits.exceptions"
       code :=
         { positional := 1, flags := 3, line := 46, stack := 1, locals := ["self"],
           names := ["message"], constants := [.absent] }
       annotations := [("return", .kind "str")] }]

def allErrors : List Class :=
  [failures, errors, missingParts, kindErrors, valueErrors, limitErrors, limitAttributeErrors,
    limitTypeErrors, limitValueErrors, limitNumberErrors]

end ProtectionLimits.Class

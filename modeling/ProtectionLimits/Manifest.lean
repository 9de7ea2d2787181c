import ProtectionLimits.Limit
import ProtectionLimits.Log
import ProtectionLimits.Reply

/-!
Contract: what the library says of itself.

Owns the version, the public names, and the list of all constants.
-/

set_option autoImplicit false

namespace ProtectionLimits.Manifest

def version : String := "1.0.0"

def publicNames : List String :=
  ["ConfigLoader", "ENTITY_COUNT_INFO", "ENTITY_COUNT_INFO_INDEX", "EnvironmentConfig",
    "LEGACY_NAMES", "Limit", "LimitRegistry", "LimitSettings", "PrintedWarnings", "State",
    "XMLLimitsAttributeError", "XMLLimitsException", "XMLLimitsNumberError",
    "XMLLimitsTypeError", "XMLLimitsValueError", "YES", "get_legacy_name", "parse_limit_value",
    "print_warning", "printed_warnings", "set_logging_level", "translation"]

def sortedFormerNames : List (String × String) :=
  formerNames.mergeSort fun left right => left.1 ≤ right.1

def constants : Reply :=
  .list
    [.count StandardLimit.all.length, .count State.all.length, .text entityCountInfo,
      .count entityCountInfoIndex, .text yes,
      .list (sortedFormerNames.map fun entry => .list [.text entry.1, .text entry.2]),
      .text version, .list (publicNames.map .text), .list (Log.levelNames.map .text)]

end ProtectionLimits.Manifest

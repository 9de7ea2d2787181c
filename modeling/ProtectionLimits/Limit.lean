import ProtectionLimits.Value.Literal

/-!
Contract: the limits that can be managed, and the standard table of them.

Owns the description of a limit, the identity of a table item apart from its
contents, the nine standard limits in table order, and the former names of
system properties. A limit of zero is not applied. Two items are the same
object exactly when they have the same identity; items of equal contents may
have different identities. The names and values of a standard limit are texts
and integers; nothing holds a caller to that.
-/

set_option autoImplicit false

namespace ProtectionLimits

inductive StandardLimit where
  | entityExpansion
  | maxOccur
  | elementAttribute
  | totalEntitySize
  | generalEntitySize
  | parameterEntitySize
  | maxElementDepth
  | maxName
  | entityReplacement
deriving DecidableEq, Repr, Inhabited

/-- What makes a table item the object it is: a standard limit is one object,
and every object of a caller has a number of its own. -/
inductive Identity where
  | standard (limit : StandardLimit)
  | custom (number : Nat)
deriving DecidableEq, Repr, Inhabited

/-- A limit: its key, the names under which it can be set, its value by default
and its value in secure processing. -/
structure Limit where
  identity : Identity
  key : Value
  apiProperty : Value
  systemProperty : Value
  defaultValue : Value
  secureValue : Value
deriving Inhabited

/-- What describes a standard limit. -/
structure LimitEntry where
  key : String
  apiProperty : String
  systemProperty : String
  defaultValue : Int
  secureValue : Int
deriving DecidableEq, Repr

namespace StandardLimit

def all : List StandardLimit :=
  [entityExpansion, maxOccur, elementAttribute, totalEntitySize, generalEntitySize,
    parameterEntitySize, maxElementDepth, maxName, entityReplacement]

def name : StandardLimit → String
  | entityExpansion => "ENTITY_EXPANSION_LIMIT"
  | maxOccur => "MAX_OCCUR_NODE_LIMIT"
  | elementAttribute => "ELEMENT_ATTRIBUTE_LIMIT"
  | totalEntitySize => "TOTAL_ENTITY_SIZE_LIMIT"
  | generalEntitySize => "GENERAL_ENTITY_SIZE_LIMIT"
  | parameterEntitySize => "PARAMETER_ENTITY_SIZE_LIMIT"
  | maxElementDepth => "MAX_ELEMENT_DEPTH_LIMIT"
  | maxName => "MAX_NAME_LIMIT"
  | entityReplacement => "ENTITY_REPLACEMENT_LIMIT"

def entry : StandardLimit → LimitEntry
  | entityExpansion =>
      ⟨"EntityExpansionLimit", "entity_expansion_limit", "XMLLIMITS_ENTITY_EXPANSION_LIMIT",
        0, 64000⟩
  | maxOccur => ⟨"MaxOccurLimit", "max_occur_limit", "XMLLIMITS_MAX_OCCUR_LIMIT", 0, 5000⟩
  | elementAttribute =>
      ⟨"ElementAttributeLimit", "element_attribute_limit", "XMLLIMITS_ELEMENT_ATTRIBUTE_LIMIT",
        0, 10000⟩
  | totalEntitySize =>
      ⟨"TotalEntitySizeLimit", "total_entity_size_limit", "XMLLIMITS_TOTAL_ENTITY_SIZE_LIMIT",
        0, 50000000⟩
  | generalEntitySize =>
      ⟨"MaxGeneralEntitySizeLimit", "max_general_entity_size_limit",
        "XMLLIMITS_MAX_GENERAL_ENTITY_SIZE_LIMIT", 0, 0⟩
  | parameterEntitySize =>
      ⟨"MaxParameterEntitySizeLimit", "max_parameter_entity_size_limit",
        "XMLLIMITS_MAX_PARAMETER_ENTITY_SIZE_LIMIT", 0, 1000000⟩
  | maxElementDepth =>
      ⟨"MaxElementDepthLimit", "max_element_depth", "XMLLIMITS_MAX_ELEMENT_DEPTH", 0, 0⟩
  | maxName =>
      ⟨"MaxXMLNameLimit", "max_xml_name_limit", "XMLLIMITS_MAX_XML_NAME_LIMIT", 1000, 1000⟩
  | entityReplacement =>
      ⟨"EntityReplacementLimit", "entity_replacement_limit",
        "XMLLIMITS_ENTITY_REPLACEMENT_LIMIT", 0, 3000000⟩

def limit (standard : StandardLimit) : Limit where
  identity := .standard standard
  key := .text standard.entry.key
  apiProperty := .text standard.entry.apiProperty
  systemProperty := .text standard.entry.systemProperty
  defaultValue := .int standard.entry.defaultValue
  secureValue := .int standard.entry.secureValue

def ofName? (name : String) : Option StandardLimit :=
  all.find? fun standard => standard.name == name

end StandardLimit

namespace Limit

def standardTable : List Limit := StandardLimit.all.map StandardLimit.limit

def initialValue (limit : Limit) (secure : Bool) : Value :=
  if secure then limit.secureValue else limit.defaultValue

/-- Whether the name is one of the two under which the limit can be set. -/
def answersTo (limit : Limit) (name : Value) : Bool :=
  name.equals limit.apiProperty || name.equals limit.systemProperty

def contents (limit : Limit) : List Value :=
  [limit.key, limit.apiProperty, limit.systemProperty, limit.defaultValue, limit.secureValue]

def contentNames : List String :=
  ["key", "api_property", "system_property", "default_value", "secure_value"]

/-- A limit as messages show it: the name and the contents of a standard limit,
the named contents of any other. -/
def literal (limit : Limit) : String :=
  match limit.identity with
  | .standard standard =>
      "<Limit." ++ standard.name ++ ": " ++ (Value.tuple limit.contents).literal ++ ">"
  | .custom _ =>
      "PlainLimit(" ++ Text.joined ", " ((contentNames.zip limit.contents).map fun content =>
        content.1 ++ "=" ++ content.2.literal) ++ ")"

/-- A limit as text: the name of a standard limit, the literal form of any other. -/
def display (limit : Limit) : String :=
  match limit.identity with
  | .standard standard => "Limit." ++ standard.name
  | .custom _ => limit.literal

/-- The literal form of a limit, unless one of its contents has none. -/
def written (limit : Limit) : Written :=
  Written.unless (Value.unwritableAmong? limit.contents) limit.literal

/-- The display form of a limit, if it has one. The name of a standard limit always has. -/
def displayed (limit : Limit) : Written :=
  match limit.identity with
  | .standard _ => .ok limit.display
  | .custom _ => limit.written

end Limit

/-- The former names of system properties. A former name is looked up where the
present one is not set. -/
def formerNames : List (String × String) :=
  [(StandardLimit.entityExpansion.entry.systemProperty, "ENTITY_EXPANSION_LIMIT"),
    (StandardLimit.maxOccur.entry.systemProperty, "MAX_OCCUR_LIMIT"),
    (StandardLimit.elementAttribute.entry.systemProperty, "ELEMENT_ATTRIBUTE_LIMIT")]

/-- The name of the setting that asks for a report of entity counts. -/
def entityCountInfo : String := "entity_count_info"

def entityCountInfoIndex : Nat := 10000

/-- The setting that switches the report of entity counts on. -/
def yes : String := "yes"

end ProtectionLimits

import ProtectionLimits.Exhibit.Feature
import ProtectionLimits.Limit
import ProtectionLimits.Shape
import ProtectionLimits.State

/-!
Contract: what messages can show.

Owns the exhibits: values, states, limits, options, classes and their features, and
things that the library made, each with the parts that a message can ask for. Owns
the literal form of each exhibit that has one, and making exhibits that keep others. Does not own
the steps from an exhibit to its parts and items; `Exhibit.Part` and `Exhibit.Item`
do. Does not own the display form of an option, which is a message of its own;
`Fault.Report` does.
-/

set_option autoImplicit false

namespace ProtectionLimits

/-- What messages can show. A thing comes with what asking for its text gives and with its
parts, and some things also with entries under keys. A parametric class is one of containers
together with a class for their items, and a feature comes with what it was asked of. -/
inductive Exhibit where
  | value (content : Value)
  | state (state : State)
  | limit (limit : Limit)
  | items (kind : Kind) (exhibits : List Exhibit)
  | thing (className : String) (written : Written) (parts : List (String × Exhibit))
      (entries : Option (List (Value × Exhibit)))
  | option (label : OptionLabel)
  | kind (known : Class)
  | parametric (origin : Class) (key : Value)
  | feature (feature : Feature) (holder : Exhibit)

namespace Exhibit

def text (content : String) : Exhibit := value (.text content)

def className : Exhibit → String
  | value content => content.kind.name
  | state _ => "State"
  | limit shown => match shown.identity with
    | .standard _ => "Limit"
    | .custom _ => "PlainLimit"
  | items sequence _ => sequence.name
  | thing className _ _ _ => className
  | option label => label.field.rule.className
  | kind known => known.metaclass
  | parametric _ _ => Class.parametrics.name
  | feature shown _ => shown.className

def parametricWritten (origin : Class) (key : Value) : Written :=
  key.written.map fun text => origin.path ++ "[" ++ text ++ "]"

mutual

def written : Exhibit → Written
  | value content => content.written
  | state shown => .ok shown.literal
  | limit shown => shown.written
  | items sequence exhibits => (allWritten exhibits).map fun texts =>
      if sequence = .tuple then Value.tupleLiteral texts
      else "[" ++ Text.joined ", " texts ++ "]"
  | thing _ written _ _ => written
  | option label => .ok ("<" ++ (Class.named label.field.rule.className).home ++ "." ++
      label.field.rule.className ++ " object>")
  | kind known => .ok known.literal
  | parametric origin key => parametricWritten origin key
  | feature shown holder => shown.written (written holder) (className holder)

/-- The literal forms of some exhibits, if all of them have one. -/
def allWritten : List Exhibit → Except Unwritable (List String)
  | [] => .ok []
  | exhibit :: rest => do
      let text ← written exhibit
      let texts ← allWritten rest
      pure (text :: texts)

end

def entryWritten (entry : Value × Exhibit) : Written := do
  let key ← entry.1.written
  let item ← entry.2.written
  pure (key ++ ": " ++ item)

/-- The literal form of exhibits under keys, if all of them have one. -/
def contentWritten (entries : List (Value × Exhibit)) : Written :=
  (entries.mapM entryWritten).map fun texts => "\x7b" ++ Text.joined ", " texts ++ "\x7d"

/-- The display form of an exhibit that is no option, if it has one. A mapping that can only
be read is displayed like any other mapping. -/
def displayed : Exhibit → Written
  | value content => content.displayed
  | state shown => .ok (Decimal.natural shown.rank)
  | limit shown => shown.displayed
  | thing "mappingproxy" _ _ (some entries) => contentWritten entries
  | other => other.written

/-- The text of an exhibit as a reply shows it: nothing if it has none. -/
def literal (exhibit : Exhibit) : String := exhibit.written.toOption.getD ""

def mapping (className : String) (entries : List (Value × Exhibit)) : Exhibit :=
  let inClass (content : String) : String :=
    if className == "dict" then content else className ++ "(" ++ content ++ ")"
  thing className ((contentWritten entries).map inClass) [] (some entries)

def setOf (className : String) (members : List Exhibit) : Exhibit :=
  let inClass (texts : List String) : String :=
    let content := "\x7b" ++ Text.joined ", " texts ++ "\x7d"
    if members.isEmpty then className ++ "()"
    else if className == "set" then content
    else className ++ "(" ++ content ++ ")"
  thing className ((allWritten members).map inClass) [] none

def names (exhibits : List (String × Exhibit)) : List (Value × Exhibit) :=
  exhibits.map fun entry => (.text entry.1, entry.2)

def plain? : Exhibit → Option Value
  | value content => some content
  | _ => none

/-- All that a thing keeps, as one mapping. -/
def whole (kept : List (Value × Exhibit)) : Exhibit :=
  match kept.mapM fun entry => entry.2.plain?.map fun content => (entry.1, content) with
  | some entries => value (.mapping entries)
  | none => mapping "dict" kept

/-- A thing with what it keeps. Only what is kept under a text is a part of the thing; all
of it is kept in one mapping. -/
def keeping (className : String) (written : Written) (kept : List (Value × Exhibit)) : Exhibit :=
  thing className written
    ([("__dict__", whole kept), ("__weakref__", value .absent)] ++
      kept.filterMap fun entry => match entry.1 with
        | .text name => some (name, entry.2)
        | _ => none)
    none

def keeper (className : String) (written : Written) (kept : List (String × Exhibit)) : Exhibit :=
  keeping className written (names kept)

end Exhibit

end ProtectionLimits

import ProtectionLimits.Exhibit

/-!
Contract: what a call gives back.

Owns the replies of calls: values, states of limits, lists of replies and replies by key,
and the reply that an exhibit makes. A state is a reply of its own kind, so that no value can be
mistaken for one.
-/

set_option autoImplicit false

namespace ProtectionLimits

/-- What a call gives back. -/
inductive Reply where
  | value (content : Value)
  | state (state : State)
  | list (items : List Reply)
  | keyed (entries : List (Value × Reply))
deriving Inhabited

namespace Reply

/-- The reply of a call that gives nothing back. -/
def nothing : Reply := value .absent

def text (content : String) : Reply := value (.text content)

def truth (content : Bool) : Reply := value (.bool content)

def integer (content : Int) : Reply := value (.int content)

def count (content : Nat) : Reply := value (.int content)

def optionalText : Option String → Reply
  | some content => text content
  | none => nothing

end Reply

namespace Exhibit

mutual

/--
An exhibit as a reply. A plain mapping is replied entry by entry; what is neither a value
nor a state nor made of replies is replied as text.
-/
def reply : Exhibit → Reply
  | .value content => .value content
  | .state shown => .state shown
  | .items _ exhibits => .list (replies exhibits)
  | .thing "dict" _ _ (some entries) => .keyed (keyedReplies entries)
  | other => .text other.literal

def replies : List Exhibit → List Reply
  | [] => []
  | exhibit :: rest => reply exhibit :: replies rest

def keyedReplies : List (Value × Exhibit) → List (Value × Reply)
  | [] => []
  | (key, exhibit) :: rest => (key, reply exhibit) :: keyedReplies rest

end

end Exhibit

end ProtectionLimits

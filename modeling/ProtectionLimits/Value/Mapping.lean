import ProtectionLimits.Fault

/-!
Contract: mappings, and values that stand for mappings.

Owns asking a mapping for a key, and the entries that a value stands for: a mapping
stands for itself, and any other sequence for the pairs that its items are. A pair is a
sequence of two, of whatever sort.
-/

set_option autoImplicit false

namespace ProtectionLimits.Value

def lookup (entries : List (Value × Value)) (key : Value) : Except Fault (Option Value) :=
  match key.unkeyable? with
  | some kind => .error (.unkeyable kind)
  | none => .ok (lookup? key entries)

def items? : Value → Option (List Value)
  | text content => some (content.toList.map fun character => text character.toString)
  | bytes content => some (content.map fun byte => int byte.toNat)
  | list items => some items
  | tuple items => some items
  | mapping entries => some (entries.map Prod.fst)
  | _ => none

def pairAt (place : Nat) (item : Value) : Except Fault (Value × Value) :=
  match item.items? with
  | some [key, content] => .ok (key, content)
  | some items => .error (.entryLength place items.length)
  | none => .error (.entryKind place)

def enterPairs (place : Nat) (entries : List (Value × Value)) :
    List Value → Except Fault (List (Value × Value))
  | [] => .ok entries
  | item :: rest => do
      let (key, content) ← pairAt place item
      match key.unkeyable? with
      | some kind => .error (.unkeyable kind)
      | none => enterPairs (place + 1) (insert entries key content) rest

def toEntries : Value → Except Fault (List (Value × Value))
  | mapping entries => .ok entries
  | other => match other.items? with
    | some items => enterPairs 0 [] items
    | none => .error (.notIterable other.kind)

end ProtectionLimits.Value

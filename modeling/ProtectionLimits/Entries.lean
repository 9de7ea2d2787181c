/-!
Contract: entries under names, in the order in which the names came.

Owns entering an item under a name. A name that is new comes last; a name that is
known keeps its place and takes the new item, which is found there from then on.
-/

set_option autoImplicit false

namespace ProtectionLimits.Entries

variable {Item : Type}

def enter (entries : List (String × Item)) (name : String) (item : Item) :
    List (String × Item) :=
  match entries with
  | [] => [(name, item)]
  | (other, old) :: rest =>
      if other = name then (other, item) :: rest else (other, old) :: enter rest name item

def enterAll (entries : List (String × Item)) (added : List (String × Item)) :
    List (String × Item) :=
  added.foldl (fun entered entry => enter entered entry.1 entry.2) entries

def ofList (added : List (String × Item)) : List (String × Item) := enterAll [] added

/-! ### Looking names up -/

@[simp] theorem lookup_enter_self (entries : List (String × Item)) (name : String)
    (item : Item) : (enter entries name item).lookup name = some item := by
  induction entries with
  | nil => simp [enter]
  | cons entry rest inductionHypothesis =>
      obtain ⟨key, old⟩ := entry
      by_cases same : key = name
      · simp [enter, same]
      · simp [enter, same, List.lookup_cons, beq_eq_false_iff_ne.2 (Ne.symm same),
          inductionHypothesis]

end ProtectionLimits.Entries

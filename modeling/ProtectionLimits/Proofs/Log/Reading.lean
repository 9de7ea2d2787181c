import ProtectionLimits.Proofs.Numeral
import ProtectionLimits.Proofs.Text.Quoted
import ProtectionLimits.Registry

/-!
Contract: what is read in the entries about limits.

Owns the entries that say that a limit was set to a value, at the beginning or behind the gate,
and those that say that a setting was ignored, with all that can be read in each. Where the key
of a limit is a text, an entry says one thing only: the key is quoted, the value has no blank in
it, and no two states have labels that begin alike.

Does not own the name under which a setting was found; it stands at the end of its entry and
may be anything.
-/

set_option autoImplicit false

namespace ProtectionLimits

/-! ### Pieces of a text -/

/-- What stands before the first separator and what stands behind it are seen in a list. -/
theorem Text.append_cons_inj {Item : Type} {separator : Item}
    {left right leftRest rightRest : List Item} (leftFree : separator ∉ left)
    (rightFree : separator ∉ right)
    (same : left ++ separator :: leftRest = right ++ separator :: rightRest) :
    left = right ∧ leftRest = rightRest := by
  induction left generalizing right with
  | nil =>
      cases right with
      | nil => exact ⟨rfl, (List.cons.inj same).2⟩
      | cons item more => exact absurd (by simp [(List.cons.inj same).1]) rightFree
  | cons item more inductionHypothesis =>
      cases right with
      | nil => exact absurd (by simp [(List.cons.inj same).1]) leftFree
      | cons other others =>
          obtain ⟨rfl, rests⟩ := List.cons.inj same
          obtain ⟨rfl, later⟩ := inductionHypothesis (fun member => leftFree (.tail _ member))
            (fun member => rightFree (.tail _ member)) rests
          exact ⟨rfl, later⟩

namespace Decimal

theorem digits_inj {left right : Nat} (same : digits left = digits right) : left = right := by
  rw [← valueOf_digits left, same, valueOf_digits]

/-- A minus sign is not the beginning of a natural number. -/
theorem digits_ne_minus (number : Nat) (rest : List Char) : digits number ≠ '-' :: rest := by
  intro same
  have isDigit := isDigit_of_mem_digits (same ▸ List.mem_cons_self : '-' ∈ digits number)
  cases isDigit

theorem integer_inj {left right : Int} (same : integer left = integer right) : left = right := by
  have characters := congrArg String.toList same
  cases left with
  | ofNat left =>
      cases right with
      | ofNat right =>
          rw [toList_integer_natural, toList_integer_natural] at characters
          rw [digits_inj characters]
      | negSucc right =>
          rw [toList_integer_natural, toList_integer_negative] at characters
          exact absurd characters (digits_ne_minus left _)
  | negSucc left =>
      cases right with
      | ofNat right =>
          rw [toList_integer_negative, toList_integer_natural] at characters
          exact absurd characters.symm (digits_ne_minus right _)
      | negSucc right =>
          rw [toList_integer_negative, toList_integer_negative] at characters
          have numbers := digits_inj (List.cons.inj characters).2
          rw [Nat.succ.inj numbers]

/-- An integer is written with digits and a minus sign. -/
theorem isDigit_or_of_mem_integer {value : Int} {character : Char}
    (member : character ∈ (integer value).toList) : isDigit character = true ∨ character = '-' := by
  cases value with
  | ofNat number =>
      rw [toList_integer_natural] at member
      exact .inl (isDigit_of_mem_digits member)
  | negSucc number =>
      rw [toList_integer_negative] at member
      rcases List.mem_cons.1 member with sign | digit
      · exact .inr sign
      · exact .inl (isDigit_of_mem_digits digit)

/-- There is no blank in an integer. -/
theorem blank_not_mem_integer (value : Int) : ' ' ∉ (integer value).toList := by
  intro member
  rcases isDigit_or_of_mem_integer member with digit | sign
  · cases digit
  · cases sign

/-- An integer before a blank can be read back. -/
theorem integer_append_inj {left right : Int} {leftRest rightRest : String}
    (same : integer left ++ (" " ++ leftRest) = integer right ++ (" " ++ rightRest)) :
    left = right ∧ leftRest = rightRest := by
  have characters := congrArg String.toList same
  simp only [String.toList_append] at characters
  obtain ⟨numbers, rests⟩ := Text.append_cons_inj (blank_not_mem_integer left)
    (blank_not_mem_integer right) characters
  exact ⟨integer_inj (String.toList_injective numbers), String.toList_injective rests⟩

end Decimal

/-- A label can be read back: no two begin with the same letter. -/
theorem State.label_append_inj {left right : State} {leftRest rightRest : String}
    (same : left.label ++ leftRest = right.label ++ rightRest) :
    left = right ∧ leftRest = rightRest := by
  have first (state : State) (rest : String) :
      (state.label ++ rest).toList.head? = state.label.toList.head? := by
    rw [String.toList_append]
    cases state <;> rfl
  have heads := congrArg (fun text => text.toList.head?) same
  rw [first, first] at heads
  have letters : ∀ left right : State,
      left.label.toList.head? = right.label.toList.head? → left = right := by
    intro left right
    cases left <;> cases right <;> decide
  obtain rfl := letters left right heads
  exact ⟨rfl, (String.append_right_inj _).1 same⟩

theorem State.label_inj {left right : State} (same : left.label = right.label) : left = right :=
  (label_append_inj (congrArg (fun label => label ++ "") same)).1

/-! ### Entries about limits -/

/-- How an entry begins that says that a limit was set. -/
def Log.setText (key : Value) (value : Int) : String :=
  "Limit " ++ key.literal ++ " set to " ++ Decimal.integer value

namespace Log.Entry

/-- Whether an entry says that a limit was set behind the gate. -/
def SaysSet (entry : Entry) (key : Value) (value : Int) (state : State) : Prop :=
  entry = ⟨.debug, setText key value ++ " by " ++ state.label⟩

/-- Whether an entry says that a limit was set to a value, with its state: at the beginning
or behind the gate. -/
def Installs (entry : Entry) (key : Value) (value : Int) (state : State) : Prop :=
  (∃ name : Value,
    entry = ⟨.info, setText key value ++ " from " ++ state.label ++ " " ++ name.literal⟩) ∨
  entry.SaysSet key value state

/-- Whether an entry says that a setting for a limit was ignored, with its state and the one
that held the limit. -/
def Ignores (entry : Entry) (key : Value) (value : Int) (state holder : State) : Prop :=
  entry = ⟨.debug, "Setting " ++ Decimal.integer value ++ " by " ++ state.label ++ " for limit " ++
    key.literal ++ " ignored, the current value is set by " ++ holder.label⟩

/-- Whether an entry says what became of a setting for a limit, and with which state. -/
def Reports (entry : Entry) (key : Value) (value : Int) (state : State) : Prop :=
  entry.SaysSet key value state ∨ ∃ holder, entry.Ignores key value state holder

/-- Whether an entry is about a limit. -/
def Names (entry : Entry) (key : Value) : Prop :=
  (∃ value state, entry.Installs key value state) ∨
    ∃ value state holder, entry.Ignores key value state holder

end Log.Entry

namespace Log

section Unambiguous

variable {entry : Entry} {key other : String} {value otherValue : Int}
  {state otherState holder otherHolder : State}

theorem setText_append (key : String) (value : Int) (rest : String) :
    setText (.text key) value ++ rest =
      "Limit " ++ (Text.quoted key ++ (" set to " ++ (Decimal.integer value ++ rest))) := by
  simp only [setText, Value.literal, String.append_assoc]

theorem setText_append_inj {rest later : String}
    (same : setText (.text key) value ++ (" " ++ rest) =
      setText (.text other) otherValue ++ (" " ++ later)) :
    key = other ∧ value = otherValue ∧ rest = later := by
  rw [setText_append, setText_append, String.append_right_inj] at same
  obtain ⟨rfl, values⟩ := Text.quoted_append_inj same
  rw [String.append_right_inj] at values
  obtain ⟨rfl, rests⟩ := Decimal.integer_append_inj values
  exact ⟨rfl, rfl, rests⟩

theorem loaded_text (key : Value) (name : String) :
    setText key value ++ " from " ++ state.label ++ " " ++ name =
      setText key value ++ (" " ++ ("from " ++ (state.label ++ (" " ++ name)))) := by
  have first : " from " = " " ++ "from " := rfl
  simp only [first, String.append_assoc]

theorem installed_text (key : Value) :
    setText key value ++ " by " ++ state.label =
      setText key value ++ (" " ++ ("by " ++ state.label)) := by
  have first : " by " = " " ++ "by " := rfl
  simp only [first, String.append_assoc]

theorem ignored_text (key : String) :
    "Setting " ++ Decimal.integer value ++ " by " ++ state.label ++ " for limit " ++
        (Value.text key).literal ++ " ignored, the current value is set by " ++ holder.label =
      "Setting " ++ (Decimal.integer value ++ (" " ++ ("by " ++ (state.label ++ (" for limit " ++
        (Text.quoted key ++ (" ignored, the current value is set by " ++ holder.label))))))) := by
  have first : " by " = " " ++ "by " := rfl
  simp only [first, Value.literal, String.append_assoc]

/-- An entry says of one limit only that it was set, and only to one value with one state. -/
theorem Entry.Installs.unique (installs : entry.Installs (.text key) value state)
    (installsOther : entry.Installs (.text other) otherValue otherState) :
    key = other ∧ value = otherValue ∧ state = otherState := by
  rcases installs with ⟨name, rfl⟩ | rfl
  · rcases installsOther with ⟨otherName, same⟩ | same
    · have texts := congrArg Entry.text same
      simp only [loaded_text] at texts
      obtain ⟨rfl, rfl, rests⟩ := setText_append_inj texts
      rw [String.append_right_inj] at rests
      exact ⟨rfl, rfl, (State.label_append_inj rests).1⟩
    · cases congrArg Entry.severity same
  · rcases installsOther with ⟨otherName, same⟩ | same
    · cases congrArg Entry.severity same
    · have texts := congrArg Entry.text same
      simp only [installed_text] at texts
      obtain ⟨rfl, rfl, rests⟩ := setText_append_inj texts
      rw [String.append_right_inj] at rests
      exact ⟨rfl, rfl, State.label_inj rests⟩

/-- An entry says of one limit only that a setting was ignored, and all of it is read there. -/
theorem Entry.Ignores.unique (ignores : entry.Ignores (.text key) value state holder)
    (ignoresOther : entry.Ignores (.text other) otherValue otherState otherHolder) :
    key = other ∧ value = otherValue ∧ state = otherState ∧ holder = otherHolder := by
  have texts := congrArg Entry.text (ignores.symm.trans ignoresOther)
  simp only [ignored_text] at texts
  rw [String.append_right_inj] at texts
  obtain ⟨rfl, behindValue⟩ := Decimal.integer_append_inj texts
  rw [String.append_right_inj] at behindValue
  obtain ⟨rfl, behindState⟩ := State.label_append_inj behindValue
  rw [String.append_right_inj] at behindState
  obtain ⟨rfl, behindKey⟩ := Text.quoted_append_inj behindState
  rw [String.append_right_inj] at behindKey
  exact ⟨rfl, rfl, rfl, State.label_inj behindKey⟩

/-- What was ignored was not set. -/
theorem Entry.Ignores.not_installs (ignores : entry.Ignores (.text key) value state holder) :
    ¬ entry.Installs (.text other) otherValue otherState := by
  rintro (⟨name, installs⟩ | set)
  · cases congrArg Entry.severity (ignores.symm.trans installs)
  · have texts := congrArg (fun entry => entry.text.toList.head?) (ignores.symm.trans set)
    simp only [ignored_text, setText_append, String.toList_append] at texts
    cases texts

/-- An entry is about one limit. -/
theorem Entry.Names.unique (names : entry.Names (.text key))
    (namesOther : entry.Names (.text other)) : key = other := by
  rcases names with ⟨value, state, installs⟩ | ⟨value, state, holder, ignores⟩
  · rcases namesOther with ⟨_, _, installsOther⟩ | ⟨_, _, _, ignoresOther⟩
    · exact (installs.unique installsOther).1
    · exact absurd installs ignoresOther.not_installs
  · rcases namesOther with ⟨_, _, installsOther⟩ | ⟨_, _, _, ignoresOther⟩
    · exact absurd installsOther ignores.not_installs
    · exact (ignores.unique ignoresOther).1

end Unambiguous

end Log

end ProtectionLimits

import ProtectionLimits.Source

/-!
Contract: what sources answer, without the ways in which they can fail.

Owns former names as an optional name, and the answer of a layered source to a text:
the environment comes before the settings, in either of them an empty setting is no
setting, and the state of the answer says which of the two it is from.
-/

set_option autoImplicit false

namespace ProtectionLimits

def Value.present? : Value → Option Value
  | .absent => none
  | other => some other

theorem Value.ne_absent_of_present? {value present : Value}
    (isPresent : value.present? = some present) : present ≠ .absent := by
  cases value <;> cases isPresent <;> exact nofun

/-- Whether a value can be passed for the former names: a mapping, or nothing for the
standard one. -/
def IsFormerNames (names : Value) : Prop := names = .absent ∨ ∃ entries, names = .mapping entries

def formerName? (names property : Value) : Option Value :=
  match names with
  | .absent => match property with
    | .text name => (formerNames.lookup name).map Value.text
    | _ => none
  | .mapping entries => (Value.lookup? property entries).bind Value.present?
  | _ => none

theorem ne_absent_of_formerName? {names property former : Value}
    (found : formerName? names property = some former) : former ≠ .absent := by
  unfold formerName? at found
  split at found
  · split at found
    · obtain ⟨name, -, rfl⟩ := Option.map_eq_some_iff.1 found
      exact nofun
    · cases found
  · obtain ⟨value, -, isPresent⟩ := Option.bind_eq_some_iff.1 found
    exact Value.ne_absent_of_present? isPresent
  · cases found

/-- Nothing goes wrong with the former name of a property that can be a key. -/
theorem formerName_eq {names property : Value} (mapping : IsFormerNames names)
    (keyable : property.unkeyable? = none) :
    formerName names property = .ok ((formerName? names property).getD .absent) := by
  rcases mapping with rfl | ⟨entries, rfl⟩
  · simp only [formerName, formerName?, keyable]
    cases property with
    | text name => rfl
    | _ => rfl
  · simp only [formerName, formerName?, Value.lookup, keyable, Except.map]
    cases Value.lookup? property entries with
    | none => rfl
    | some found => cases found <;> rfl

/-! ### Layered sources -/

/-- The value of a variable that is named by a text. -/
def Environment.value? (environment : Environment) (name : String) : Option Value :=
  match environment with
  | .process bindings => (bindings.lookup name).map Value.text
  | .mapping entries => Value.lookup? (.text name) entries

theorem Environment.get_text (environment : Environment) (name : String) :
    environment.get (.text name) = .ok (environment.value? name) := by
  cases environment <;> rfl

/-- The first of some candidates that is a setting. An empty one is none. -/
def Source.firstPresent? (candidates : List (Option Value × State)) : Option (Value × State) :=
  candidates.findSome? fun candidate =>
    (present? candidate.1).map fun value => (value, candidate.2)

/-- What the two layers of a source have under a name, in the order in which they count. -/
def Source.candidates (environment : Environment) (settings : List (Value × Value))
    (name : String) : List (Option Value × State) :=
  [(environment.value? name, .environment), (Value.lookup? (.text name) settings, .configFile)]

def Source.layeredAnswers (environment : Environment) (settings : List (Value × Value)) :
    Value → Option (Value × State)
  | .text name => firstPresent? (candidates environment settings name)
  | _ => none

theorem Source.get_layered_text (environment : Environment) (settings : List (Value × Value))
    (name : String) :
    (layered environment settings).get (.text name) =
      .ok ((layeredAnswers environment settings (.text name)).map fun answer =>
        (answer.1, .state answer.2)) := by
  simp only [get, environment.get_text, layeredAnswers, candidates, firstPresent?, bind,
    Except.bind, pure, Except.pure, Value.lookup, Value.unkeyable?, List.findSome?_cons]
  cases present? (environment.value? name) with
  | some value => rfl
  | none => cases present? (Value.lookup? (.text name) settings) <;> rfl

end ProtectionLimits

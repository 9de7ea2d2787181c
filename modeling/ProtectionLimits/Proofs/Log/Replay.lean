import ProtectionLimits.Proofs.Log.Reading

/-!
Contract: rows as they are told by the log.

Owns the replay of entries for one limit, which keeps the value and the state that an entry says
the limit was set to and passes over all other entries, and when the entries of a log tell how
one row came about from another (`Tells`): the replay leads from the contents of the one to those
of the other, and the flag was put up exactly if an entry says that the gate let a setting
through. What is told in two parts is told by both (`Tells.append`), and entries that do not say
that the limit was set tell nothing of it.

Does not own which entries a call writes.
-/

set_option autoImplicit false

namespace ProtectionLimits

namespace Log

/-- The replay of some entries for the limit of a key leads from one value and state to
another. -/
inductive Replays (key : Value) : Value × State → List Entry → Value × State → Prop where
  | done (pair : Value × State) : Replays key pair [] pair
  | installed {entry : Entry} {value : Int} {state : State} {pair last : Value × State}
      {rest : List Entry} (installs : entry.Installs key value state)
      (later : Replays key (.int value, state) rest last) : Replays key pair (entry :: rest) last
  | passed {entry : Entry} {pair last : Value × State} {rest : List Entry}
      (silent : ∀ value state, ¬ entry.Installs key value state)
      (later : Replays key pair rest last) : Replays key pair (entry :: rest) last

namespace Replays

theorem append {key : Value} {first middle last : Value × State} {entries more : List Entry}
    (front : Replays key first entries middle) (back : Replays key middle more last) :
    Replays key first (entries ++ more) last := by
  induction front with
  | done pair => exact back
  | installed installs later inductionHypothesis =>
      exact .installed installs (inductionHypothesis back)
  | passed silent later inductionHypothesis =>
      exact .passed silent (inductionHypothesis back)

/-- Entries that say nothing of a limit lead nowhere. -/
theorem of_silent {key : Value} {entries : List Entry}
    (silent : ∀ entry ∈ entries, ∀ value state, ¬ entry.Installs key value state)
    (pair : Value × State) : Replays key pair entries pair := by
  induction entries with
  | nil => exact .done pair
  | cons entry rest inductionHypothesis =>
      rw [List.forall_mem_cons] at silent
      exact .passed silent.1 (inductionHypothesis silent.2)

/-- A replay leads to one end only, since an entry says one thing only. -/
theorem unique {key : String} {first last other : Value × State} {entries : List Entry}
    (replays : Replays (.text key) first entries last)
    (replaysOther : Replays (.text key) first entries other) : last = other := by
  induction replays with
  | done pair =>
      cases replaysOther
      rfl
  | installed installs later inductionHypothesis =>
      cases replaysOther with
      | installed installsOther laterOther =>
          obtain ⟨-, rfl, rfl⟩ := installs.unique installsOther
          exact inductionHypothesis laterOther
      | passed silent laterOther => exact absurd installs (silent _ _)
  | passed silent later inductionHypothesis =>
      cases replaysOther with
      | installed installsOther laterOther => exact absurd installsOther (silent _ _)
      | passed silentOther laterOther => exact inductionHypothesis laterOther

end Replays

/-- Whether some entries tell how a row came about from another one of the same limit. -/
structure Tells (key : Value) (before : Row) (entries : List Entry) (behind : Row) : Prop where
  replays : Replays key (before.value, before.state) entries (behind.value, behind.state)
  isSet : behind.isSet = true ↔
    before.isSet = true ∨ ∃ entry ∈ entries, ∃ value state, entry.SaysSet key value state

namespace Tells

theorem append {key : Value} {first middle last : Row} {entries more : List Entry}
    (front : Tells key first entries middle) (back : Tells key middle more last) :
    Tells key first (entries ++ more) last where
  replays := front.replays.append back.replays
  isSet := by
    rw [back.isSet, front.isSet, or_assoc]
    simp only [List.mem_append, or_and_right, exists_or]

/-- Entries that say nothing of a limit tell that its row stayed what it was. -/
theorem of_silent {key : Value} {entries : List Entry}
    (silent : ∀ entry ∈ entries, ∀ value state, ¬ entry.Installs key value state) (row : Row) :
    Tells key row entries row where
  replays := .of_silent silent _
  isSet := by
    refine (or_iff_left ?_).symm
    rintro ⟨entry, member, value, state, saysSet⟩
    exact silent entry member value state (.inr saysSet)

theorem nil (key : Value) (row : Row) : Tells key row [] row := of_silent (by simp) row

/-- So do entries about other limits. -/
theorem of_others {key : String} {entries : List Entry}
    (others : ∀ entry ∈ entries, ∃ other, other ≠ key ∧ entry.Names (.text other)) (row : Row) :
    Tells (.text key) row entries row := by
  refine of_silent (fun entry member value state installs => ?_) row
  obtain ⟨other, different, names⟩ := others entry member
  exact different (names.unique (.inl ⟨value, state, installs⟩))

end Tells

end Log

namespace Event

def entry (event : Event) : Log.Entry := ⟨event.severity, event.text.toOption.getD ""⟩

theorem entry_loaded_installs (key : Value) (value : Int) (state : State) (name : Value) :
    (Event.loaded key value state name).entry.Installs key value state :=
  .inl ⟨name, rfl⟩

theorem tells_loaded (row : Row) (value : Int) (state : State) (name : Value) :
    Log.Tells row.limit.key row [(Event.loaded row.limit.key value state name).entry]
      { row with value := .int value, state := state } where
  replays := .installed (entry_loaded_installs row.limit.key value state name) (.done _)
  isSet := by
    refine (or_iff_left ?_).symm
    rintro ⟨entry, member, other, otherState, saysSet⟩
    rw [List.mem_singleton.1 member] at saysSet
    cases congrArg Log.Entry.severity saysSet

section Verdict

variable {row : Row} {state : State}

theorem entry_verdict_saysSet (accepted : row.state ≤ state) (value : Int) :
    (row.verdict state (.int value)).entry.SaysSet row.limit.key value state := by
  rw [Row.verdict, if_pos accepted]
  rfl

theorem entry_verdict_ignores (rejected : ¬ row.state ≤ state) (value : Int) :
    (row.verdict state (.int value)).entry.Ignores row.limit.key value state row.state := by
  rw [Row.verdict, if_neg rejected]
  rfl

theorem entry_verdict_reports (row : Row) (state : State) (value : Int) :
    (row.verdict state (.int value)).entry.Reports row.limit.key value state := by
  by_cases accepted : row.state ≤ state
  · exact .inl (entry_verdict_saysSet accepted value)
  · exact .inr ⟨row.state, entry_verdict_ignores accepted value⟩

/-- The entry of an offer is about the limit of the row. -/
theorem entry_verdict_names (row : Row) (state : State) (value : Int) :
    (row.verdict state (.int value)).entry.Names row.limit.key := by
  rcases entry_verdict_reports row state value with saysSet | ⟨holder, ignores⟩
  · exact .inl ⟨value, state, .inr saysSet⟩
  · exact .inr ⟨value, state, holder, ignores⟩

/-- The entry of an offer says that a setting was ignored only if the row is held by the state
that it names, which the setting does not reach. -/
theorem lt_of_entry_verdict_ignores {key ownKey : String} (isKey : row.limit.key = .text ownKey)
    {value other : Int} {otherState holder : State}
    (ignores : (row.verdict state (.int value)).entry.Ignores (.text key) other otherState
      holder) :
    row.limit.key = .text key ∧ row.state = holder ∧ otherState < holder ∧
      row.offer state (.int value) = row := by
  by_cases accepted : row.state ≤ state
  · have saysSet := entry_verdict_saysSet accepted value
    rw [isKey] at saysSet
    exact absurd (.inr saysSet) ignores.not_installs
  · have own := entry_verdict_ignores accepted value
    rw [isKey] at own
    obtain ⟨rfl, -, rfl, rfl⟩ := own.unique ignores
    exact ⟨isKey, rfl, State.not_le_iff_lt.1 accepted, Row.offer_of_not_le accepted _⟩

/-- The entry of an offer tells what became of the row. -/
theorem tells_verdict {key : String} (isKey : row.limit.key = .text key) (state : State)
    (value : Int) :
    Log.Tells row.limit.key row [(row.verdict state (.int value)).entry]
      (row.offer state (.int value)) := by
  by_cases accepted : row.state ≤ state
  · have saysSet := entry_verdict_saysSet accepted value
    rw [Row.offer_of_le accepted]
    exact
      { replays := .installed (.inr saysSet) (.done _)
        isSet := iff_of_true rfl (.inr ⟨_, List.mem_singleton_self _, value, state, saysSet⟩) }
  · have ignores := entry_verdict_ignores accepted value
    rw [Row.offer_of_not_le accepted]
    refine .of_silent (fun entry member other otherState => ?_) row
    rw [List.mem_singleton.1 member, isKey]
    rw [isKey] at ignores
    exact ignores.not_installs

end Verdict

end Event

end ProtectionLimits

import Mathlib.Data.List.Induction
import ProtectionLimits.Registry

/-!
Contract: what becomes of a row that is offered one value after the other.

Owns writes, the row behind a list of them, and what that row is without going
through the list (`IsSettled`): its state is the highest of its own first state and
the states of all writes, its value is the last one that came with that state, and
its flag is up exactly if a write reached the first state. A row is settled by what
each state contributes, in the order within each state (`IsSettled.eq`); how the
states are interleaved decides nothing.
-/

set_option autoImplicit false

namespace ProtectionLimits

attribute [ext] Row

/-- A value that is offered to a row, with its state. -/
structure Write where
  state : State
  value : Value

namespace Row

def receive (row : Row) (write : Write) : Row := row.offer write.state write.value

def settle (row : Row) (writes : List Write) : Row := writes.foldl receive row

/-- The writes that come with a state, in order. -/
def writesWith (state : State) (writes : List Write) : List Write :=
  writes.filter fun write => write.state = state

def lastValue? (state : State) (writes : List Write) : Option Value :=
  (writesWith state writes).getLast?.map Write.value

/-- What a row is once it has been offered some writes. -/
structure IsSettled (row : Row) (writes : List Write) (settled : Row) : Prop where
  limit : settled.limit = row.limit
  notLowered : row.state ≤ settled.state
  highest : ∀ write ∈ writes, write.state ≤ settled.state
  reached : settled.state = row.state ∨ ∃ write ∈ writes, write.state = settled.state
  value : settled.value = (lastValue? settled.state writes).getD row.value
  isSet : settled.isSet = true ↔ row.isSet = true ∨ ∃ write ∈ writes, row.state ≤ write.state

@[simp] theorem settle_nil (row : Row) : row.settle [] = row := rfl

theorem settle_append (row : Row) (first second : List Write) :
    row.settle (first ++ second) = (row.settle first).settle second := by
  simp [settle]

theorem settle_concat (row : Row) (front : List Write) (last : Write) :
    row.settle (front ++ [last]) = (row.settle front).receive last := by
  simp [settle]

theorem mem_writesWith {state : State} {writes : List Write} {write : Write} :
    write ∈ writesWith state writes ↔ write ∈ writes ∧ write.state = state := by
  simp [writesWith]

theorem lastValue?_concat_self (front : List Write) (last : Write) :
    lastValue? last.state (front ++ [last]) = some last.value := by
  simp [lastValue?, writesWith]

theorem lastValue?_concat_of_ne {state : State} {last : Write} (front : List Write)
    (distinct : last.state ≠ state) :
    lastValue? state (front ++ [last]) = lastValue? state front := by
  simp [lastValue?, writesWith, distinct]

/-! ### One more write -/

/-- A write that passes the gate gives its value and its state. -/
theorem IsSettled.concat_of_le {row settled : Row} {front : List Write} {last : Write}
    (before : IsSettled row front settled) (accepted : settled.state ≤ last.state) :
    IsSettled row (front ++ [last]) (settled.receive last) := by
  rw [receive, offer_of_le accepted]
  have reachesFirst : row.state ≤ last.state := Nat.le_trans before.notLowered accepted
  constructor
  · exact before.limit
  · exact reachesFirst
  · intro write member
    rcases List.mem_append.1 member with inFront | isLast
    · exact Nat.le_trans (before.highest write inFront) accepted
    · rw [List.mem_singleton.1 isLast]
      exact Nat.le_refl last.state.rank
  · exact .inr ⟨last, by simp, rfl⟩
  · simp only [lastValue?_concat_self, Option.getD_some]
  · refine iff_of_true rfl (.inr ⟨last, by simp, reachesFirst⟩)

/-- A write that is turned away comes with a state below one that was there before. So it
is neither the highest nor the first to reach the state of the row. -/
theorem IsSettled.concat_of_not_le {row settled : Row} {front : List Write} {last : Write}
    (before : IsSettled row front settled) (rejected : ¬ settled.state ≤ last.state) :
    IsSettled row (front ++ [last]) (settled.receive last) := by
  rw [receive, offer_of_not_le rejected]
  have below : last.state.rank < settled.state.rank := State.not_le_iff_lt.1 rejected
  constructor
  · exact before.limit
  · exact before.notLowered
  · intro write member
    rcases List.mem_append.1 member with inFront | isLast
    · exact before.highest write inFront
    · rw [List.mem_singleton.1 isLast]
      exact Nat.le_of_lt below
  · rcases before.reached with unchanged | ⟨write, member, reaches⟩
    · exact .inl unchanged
    · exact .inr ⟨write, List.mem_append_left [last] member, reaches⟩
  · have distinct : last.state ≠ settled.state := by
      intro same
      rw [same] at below
      exact Nat.lt_irrefl _ below
    rw [lastValue?_concat_of_ne front distinct]
    exact before.value
  · rw [before.isSet]
    constructor
    · rintro (wasSet | ⟨write, member, reachesFirst⟩)
      · exact .inl wasSet
      · exact .inr ⟨write, List.mem_append_left [last] member, reachesFirst⟩
    · rintro (wasSet | ⟨write, member, reachesFirst⟩)
      · exact .inl wasSet
      · rcases List.mem_append.1 member with inFront | isLast
        · exact .inr ⟨write, inFront, reachesFirst⟩
        · -- The write in front that raised the row above `last` reached the first state too.
          rw [List.mem_singleton.1 isLast] at reachesFirst
          rcases before.reached with unchanged | ⟨raising, inFront, reaches⟩
          · rw [unchanged] at below
            exact absurd reachesFirst (Nat.not_le_of_lt below)
          · refine .inr ⟨raising, inFront, ?_⟩
            rw [reaches]
            exact before.notLowered

/-- The row behind some writes is settled by them. -/
theorem isSettled_settle (row : Row) (writes : List Write) :
    IsSettled row writes (row.settle writes) := by
  induction writes using List.reverseRecOn with
  | nil =>
      constructor
      · rfl
      · exact Nat.le_refl row.state.rank
      · intro write member
        cases member
      · exact .inl rfl
      · rfl
      · simp
  | append_singleton front last inductionHypothesis =>
      rw [settle_concat]
      by_cases accepted : (row.settle front).state ≤ last.state
      · exact inductionHypothesis.concat_of_le accepted
      · exact inductionHypothesis.concat_of_not_le accepted

/-! ### Writes that agree state by state -/

theorem mem_of_writesWith_eq {first second : List Write}
    (agreement : ∀ state, writesWith state first = writesWith state second) {write : Write}
    (member : write ∈ first) : write ∈ second := by
  have within : write ∈ writesWith write.state first := mem_writesWith.2 ⟨member, rfl⟩
  rw [agreement] at within
  exact (mem_writesWith.1 within).1

/-- The state of a settled row is no higher than that of a row settled by all its writes. -/
theorem IsSettled.state_le {row left right : Row} {first second : List Write}
    (leftSettled : IsSettled row first left) (rightSettled : IsSettled row second right)
    (included : ∀ write ∈ first, write ∈ second) : left.state ≤ right.state := by
  rcases leftSettled.reached with unchanged | ⟨write, member, reaches⟩
  · rw [unchanged]
    exact rightSettled.notLowered
  · rw [← reaches]
    exact rightSettled.highest write (included write member)

/-- The flag of a settled row is up in a row settled by all its writes too. -/
theorem IsSettled.isSet_of_included {row left right : Row} {first second : List Write}
    (leftSettled : IsSettled row first left) (rightSettled : IsSettled row second right)
    (included : ∀ write ∈ first, write ∈ second) (leftSet : left.isSet = true) :
    right.isSet = true := by
  rw [rightSettled.isSet]
  rcases leftSettled.isSet.1 leftSet with wasSet | ⟨write, member, reachesFirst⟩
  · exact .inl wasSet
  · exact .inr ⟨write, included write member, reachesFirst⟩

/-- Writes that agree state by state settle a row in the same way. -/
theorem IsSettled.eq {row left right : Row} {first second : List Write}
    (leftSettled : IsSettled row first left) (rightSettled : IsSettled row second right)
    (agreement : ∀ state, writesWith state first = writesWith state second) : left = right := by
  have forward : ∀ write ∈ first, write ∈ second :=
    fun _ member => mem_of_writesWith_eq agreement member
  have backward : ∀ write ∈ second, write ∈ first :=
    fun _ member => mem_of_writesWith_eq (fun state => (agreement state).symm) member
  have sameState : left.state = right.state :=
    State.rank_injective (Nat.le_antisymm (leftSettled.state_le rightSettled forward)
      (rightSettled.state_le leftSettled backward))
  have sameFlag : left.isSet = true ↔ right.isSet = true :=
    ⟨leftSettled.isSet_of_included rightSettled forward,
      rightSettled.isSet_of_included leftSettled backward⟩
  ext1
  · rw [leftSettled.limit, rightSettled.limit]
  · rw [leftSettled.value, rightSettled.value, sameState, lastValue?, lastValue?, agreement]
  · exact sameState
  · exact Bool.eq_iff_iff.2 sameFlag

end Row

end ProtectionLimits

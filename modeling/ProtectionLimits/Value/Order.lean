import ProtectionLimits.Fault

/-!
Contract: the order of values.

Owns which values come before which, and putting values in order. Texts, bytes and
numbers have an order, each among themselves; lists and tuples are compared item by
item; nothing else has an order. A list is put in order by inserting each value behind
the run that stands in order at the beginning, and the first two values that are
compared and have no order are what fails. `perm_of_sorted` says that putting values in
order loses none and adds none.
-/

set_option autoImplicit false

namespace ProtectionLimits.Value

/-! ### Which value comes first -/

/-- Whether some bytes come before others: at the first difference, or because
the others go on. -/
def bytesPrecede : List UInt8 → List UInt8 → Bool
  | [], right => !right.isEmpty
  | _ :: _, [] => false
  | left :: lefts, right :: rights =>
      if left = right then bytesPrecede lefts rights else left < right

/-- Whether an atom comes before another; only texts, bytes and numbers have an
order, each among themselves. -/
def atomPrecedes (left right : Value) : Except Fault Bool :=
  match left, right with
  | .text left, .text right => .ok (left < right)
  | .bytes left, .bytes right => .ok (bytesPrecede left right)
  | left, right =>
      if left.isNumeric && right.isNumeric then .ok (left.isBefore right)
      else .error (.notComparable "<" left.kind right.kind)

mutual

/-- Whether a value comes before another. Lists and tuples are compared item by item. -/
def precedes : Value → Value → Except Fault Bool
  | .tuple left, right => match right with
    | .tuple items => itemsPrecede left items
    | other => .error (.notComparable "<" .tuple other.kind)
  | .list left, right => match right with
    | .list items => itemsPrecede left items
    | other => .error (.notComparable "<" .list other.kind)
  | atom, right => atomPrecedes atom right

/-- Whether the first items that differ are in order; where there are none, fewer
items come first. -/
def itemsPrecede : List Value → List Value → Except Fault Bool
  | [], rights => .ok (!rights.isEmpty)
  | _ :: _, [] => .ok false
  | left :: lefts, right :: rights =>
      if left.equals right then itemsPrecede lefts rights else precedes left right

end

/-! ### Putting values in order -/

/-- How many values at the beginning go on as the first two do: each before the one ahead
of it, or none before the one ahead of it. -/
def runLength (isDescending : Bool) : List Value → Except Fault Nat
  | first :: second :: rest => do
      if (← precedes second first) = isDescending then
        pure ((← runLength isDescending (second :: rest)) + 1)
      else pure 1
  | values => pure values.length

/-- The place of a value in an ordered list, between two places: behind all values that it
does not come before. -/
def placeIn (ordered : List Value) (pivot : Value) (first last : Nat) : Except Fault Nat :=
  if first < last then do
    let middle := first + (last - first) / 2
    match ordered[middle]? with
    | none => pure first
    | some other =>
        if ← precedes pivot other then placeIn ordered pivot first middle
        else placeIn ordered pivot (middle + 1) last
  else pure first
termination_by last - first
decreasing_by all_goals omega

def insertInOrder (ordered : List Value) (pivot : Value) : Except Fault (List Value) := do
  let place ← placeIn ordered pivot 0 ordered.length
  pure (ordered.take place ++ pivot :: ordered.drop place)

def firstRun (values : List Value) : Except Fault (List Value × List Value) :=
  match values with
  | first :: second :: rest => do
      let isDescending ← precedes second first
      let length ← runLength isDescending (first :: second :: rest)
      let run := values.take length
      pure (if isDescending then run.reverse else run, values.drop length)
  | few => pure (few, [])

def sorted (values : List Value) : Except Fault (List Value) := do
  let (run, rest) ← firstRun values
  rest.foldlM insertInOrder run

/-! ### Nothing is lost -/

theorem perm_of_insertInOrder {ordered inserted : List Value} {pivot : Value}
    (done : insertInOrder ordered pivot = .ok inserted) : inserted.Perm (pivot :: ordered) := by
  unfold insertInOrder at done
  cases found : placeIn ordered pivot 0 ordered.length with
  | error fault => rw [found] at done; cases done
  | ok place =>
      rw [found] at done
      cases done
      exact List.perm_middle.trans
        (List.Perm.cons pivot (by rw [List.take_append_drop]))

theorem perm_of_foldlM {rest run done : List Value}
    (finished : rest.foldlM insertInOrder run = .ok done) : done.Perm (run ++ rest) := by
  induction rest generalizing run with
  | nil =>
      cases finished
      simp
  | cons value rest inductionHypothesis =>
      rw [List.foldlM_cons] at finished
      cases step : insertInOrder run value with
      | error fault => rw [step] at finished; cases finished
      | ok next =>
          rw [step] at finished
          have later := inductionHypothesis finished
          have now := perm_of_insertInOrder step
          exact later.trans ((now.append_right rest).trans List.perm_middle.symm)

theorem perm_of_firstRun {values run rest : List Value}
    (found : firstRun values = .ok (run, rest)) : (run ++ rest).Perm values := by
  unfold firstRun at found
  split at found
  · rename_i first second others
    cases order : precedes second first with
    | error fault => rw [order] at found; cases found
    | ok isDescending =>
        rw [order] at found
        cases length : runLength isDescending (first :: second :: others) with
        | error fault => simp only [bind, Except.bind, length] at found; cases found
        | ok length =>
            simp only [bind, Except.bind, length] at found
            cases found
            split
            · exact ((List.reverse_perm _).append_right _).trans
                (by rw [List.take_append_drop])
            · rw [List.take_append_drop]
  · cases found
    simp

/-- Values in order are the same values. -/
theorem perm_of_sorted {values ordered : List Value} (done : sorted values = .ok ordered) :
    ordered.Perm values := by
  unfold sorted at done
  cases found : firstRun values with
  | error fault => rw [found] at done; cases done
  | ok parts =>
      rw [found] at done
      exact (perm_of_foldlM done).trans (perm_of_firstRun found)

end ProtectionLimits.Value

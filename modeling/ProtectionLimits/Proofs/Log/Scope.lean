import ProtectionLimits.Log.Scope

/-!
Contract: programs and the level of the log, without running them.

Owns how a program ends, the level that it leaves in force, and everything that it tries to
write, with the level that is in force there. All three are read off the program: a call that
asks for a level begins at that level and leaves nothing of it behind, so only what a program
sets outside of such calls stays in force. `runAll_eq` says that running a program comes to
just that, whatever the level it is run at and however deep its calls are nested.

Does not own which calls of a caller run in such a scope.
-/

set_option autoImplicit false

namespace ProtectionLimits.Log

/-! ### Asking for a level -/

/-- What comes of a request for a level: none is asked for, or there is one, or it is
refused. -/
def requested? : Value → Except Fault (Option Int)
  | .absent => .ok none
  | requested => (levelOf requested).map some

theorem requested?_of_levelOf {requested : Value} {chosen : Int}
    (isLevel : levelOf requested = .ok chosen) : requested? requested = .ok (some chosen) := by
  cases requested with
  | absent => cases isLevel
  | _ => simp only [requested?, isLevel, Except.map]

theorem requested?_of_refused {requested : Value} {fault : Fault} (asked : requested ≠ .absent)
    (refused : levelOf requested = .error fault) : requested? requested = .error fault := by
  cases requested with
  | absent => exact absurd rfl asked
  | _ => simp only [requested?, refused, Except.map]

/-- A call in a scope is not made, is made as if there were no scope, or is made at the level
that it asks for and leaves the one from before. -/
theorem withLevel_eq {Result : Type} (requested : Value) (level : Int)
    (call : Int → Run Result) :
    withLevel requested level call =
      match requested? requested with
      | .error fault => ⟨level, [], .error fault⟩
      | .ok none => call level
      | .ok (some chosen) => { call chosen with level := level } := by
  cases requested with
  | absent => rfl
  | _ =>
      simp only [withLevel, requested?]
      cases levelOf _ <;> rfl

/-! ### Programs read without running them -/

mutual

/-- How a statement ends. The level in force has no part in it. -/
def Statement.outcome : Statement → Except Fault Unit
  | .write _ _ => .ok ()
  | .setLevel requested => (levelOf requested).map fun _ => ()
  | .fail error => match error.made with
      | .ok made => .error (.caller made)
      | .error fault => .error fault
  | .call requested body guarded =>
      if guarded then .ok ()
      else match requested? requested with
        | .error fault => .error fault
        | .ok _ => outcomeAll body

/-- How a program ends. -/
def outcomeAll : List Statement → Except Fault Unit
  | [] => .ok ()
  | statement :: rest => match statement.outcome with
      | .error fault => .error fault
      | .ok () => outcomeAll rest

end

mutual

/-- The level that a statement leaves in force, if it leaves another than it found. A call
that asks for a level leaves none. -/
def Statement.left? : Statement → Option Int
  | .write _ _ => none
  | .setLevel requested => (levelOf requested).toOption
  | .fail _ => none
  | .call requested body _ => match requested? requested with
      | .ok none => leftAll? body
      | _ => none

/-- The level that a program leaves in force: the last that it set before it ended. -/
def leftAll? : List Statement → Option Int
  | [] => none
  | statement :: rest => match statement.outcome with
      | .error _ => statement.left?
      | .ok () => (leftAll? rest).or statement.left?

end

mutual

/-- What a statement tries to write, each entry with the level in force there. -/
def Statement.attempts : Statement → Int → List (Int × Entry)
  | .write severity text, level => [(level, ⟨severity, text⟩)]
  | .setLevel _, _ => []
  | .fail _, _ => []
  | .call requested body _, level => match requested? requested with
      | .error _ => []
      | .ok asked => attemptsAll body (asked.getD level)

/-- What a program tries to write. Each statement finds the level in force that those before
it have left. -/
def attemptsAll : List Statement → Int → List (Int × Entry)
  | [], _ => []
  | statement :: rest, level =>
      statement.attempts level ++
        match statement.outcome with
        | .error _ => []
        | .ok () => attemptsAll rest (statement.left?.getD level)

end

/-- The entries that come through, each past the level in force where it was written. -/
def passed (attempts : List (Int × Entry)) : List Entry :=
  (attempts.filter fun attempt => lets attempt.1 attempt.2.severity).map Prod.snd

theorem passed_append (first second : List (Int × Entry)) :
    passed (first ++ second) = passed first ++ passed second := by
  simp [passed]

theorem passed_write (level : Int) (entry : Entry) :
    passed [(level, entry)] = visible level [entry] := by
  cases admitted : lets level entry.severity <;> simp [passed, visible, admitted]

/-! ### Running programs -/

mutual

theorem Statement.run_eq (statement : Statement) (level : Int) :
    statement.run level =
      ⟨statement.left?.getD level, passed (statement.attempts level), statement.outcome⟩ := by
  cases statement with
  | write severity text =>
      simp only [Statement.run, Statement.left?, Statement.attempts, Statement.outcome,
        passed_write, Option.getD_none]
  | setLevel requested =>
      simp only [Statement.run, Statement.left?, Statement.attempts, Statement.outcome]
      cases levelOf requested <;> rfl
  | fail error =>
      simp only [Statement.run, Statement.left?, Statement.attempts, Statement.outcome]
      cases error.made <;> rfl
  | call requested body guarded =>
      simp only [Statement.run, withLevel_eq, Statement.left?, Statement.attempts,
        Statement.outcome]
      cases requested? requested with
      | error fault => cases guarded <;> rfl
      | ok asked =>
          cases asked with
          | none =>
              rw [runAll_eq body level]
              cases guarded <;> rfl
          | some chosen =>
              -- What the body leaves in force ends with the call, so only its entries remain.
              dsimp only
              rw [runAll_eq body chosen]
              cases guarded <;> rfl

/-- Running a program at a level comes to what is read off it: it leaves the last level that
it set outside of the scopes in it, lets its entries through where the level in force does,
and ends as it would at any other level. -/
theorem runAll_eq (program : List Statement) (level : Int) :
    runAll program level =
      ⟨(leftAll? program).getD level, passed (attemptsAll program level), outcomeAll program⟩ := by
  cases program with
  | nil => rfl
  | cons statement rest =>
      rw [runAll, leftAll?, attemptsAll, outcomeAll, Statement.run_eq statement level]
      cases ended : statement.outcome with
      | error fault =>
          rw [Run.andThen_of_error rfl, List.append_nil]
      | ok finished =>
          rw [Run.andThen_of_ok rfl, runAll_eq rest, passed_append]
          dsimp only
          cases leftAll? rest <;> rfl

end

/-- A scope that asks for a level leaves the one from before, guarded or not. -/
theorem level_call {requested : Value} (body : List Statement) (guarded : Bool) (level : Int)
    (asked : requested ≠ .absent) :
    ((Statement.call requested body guarded).run level).level = level := by
  have kept := level_withLevel level (runAll body) asked
  cases guarded with
  | true => exact kept
  | false => exact kept

end ProtectionLimits.Log

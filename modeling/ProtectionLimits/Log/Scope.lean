import ProtectionLimits.CallerError.Making
import ProtectionLimits.Log

/-!
Contract: a level that holds for the time of one call.

Owns the scope of a level, and programs that write entries, change the level,
fail, and open further scopes. A call that asks for a level runs at that level,
and whatever it does or however it ends, the level from before the call holds
again behind it. A call that asks for none leaves every change in force.
-/

set_option autoImplicit false

namespace ProtectionLimits.Log

/-- What a call leaves behind: the level, the entries that were let through, and
its result. -/
structure Run (Result : Type) where
  level : Int
  entries : List Entry
  result : Except Fault Result

/-- A call within the scope of the requested level. A request that is no level
fails before the call. -/
def withLevel {Result : Type} (requested : Value) (level : Int) (call : Int → Run Result) :
    Run Result :=
  match requested with
  | .absent => call level
  | other =>
      match levelOf other with
      | .error fault => ⟨level, [], .error fault⟩
      | .ok inner => { call inner with level := level }

/-- A statement of a program that runs within a call. A guarded call keeps its
failure to itself. -/
inductive Statement where
  | write (severity : Severity) (text : String)
  | setLevel (level : Value)
  | fail (error : CallerError)
  | call (requested : Value) (body : List Statement) (guarded : Bool)

/-- A run whose failure is kept back. -/
def Run.guard (run : Run Unit) : Run Unit := { run with result := .ok () }

def Run.andThen (first : Run Unit) (next : Int → Run Unit) : Run Unit :=
  match first.result with
  | .error fault => ⟨first.level, first.entries, .error fault⟩
  | .ok () =>
      let second := next first.level
      ⟨second.level, first.entries ++ second.entries, second.result⟩

mutual

def Statement.run : Statement → Int → Run Unit
  | .write severity text, level => ⟨level, visible level [⟨severity, text⟩], .ok ()⟩
  | .setLevel requested, level =>
      match levelOf requested with
      | .ok chosen => ⟨chosen, [], .ok ()⟩
      | .error fault => ⟨level, [], .error fault⟩
  | .fail error, level =>
      match error.made with
      | .ok made => ⟨level, [], .error (.caller made)⟩
      | .error fault => ⟨level, [], .error fault⟩
  | .call requested body guarded, level =>
      let run := withLevel requested level (runAll body)
      if guarded then run.guard else run

/-- Statements one after the other, up to the first that fails. -/
def runAll : List Statement → Int → Run Unit
  | [], level => ⟨level, [], .ok ()⟩
  | statement :: rest, level => (statement.run level).andThen (runAll rest)

end

theorem Run.andThen_of_ok {first : Run Unit} (finished : first.result = .ok ())
    (next : Int → Run Unit) :
    first.andThen next =
      ⟨(next first.level).level, first.entries ++ (next first.level).entries,
        (next first.level).result⟩ := by
  simp [Run.andThen, finished]

theorem Run.andThen_of_error {first : Run Unit} {fault : Fault}
    (failed : first.result = .error fault) (next : Int → Run Unit) :
    first.andThen next = ⟨first.level, first.entries, .error fault⟩ := by
  simp [Run.andThen, failed]

/-- A scope that asked for a level leaves the level from before. -/
theorem level_withLevel {Result : Type} {requested : Value} (level : Int)
    (call : Int → Run Result) (asked : requested ≠ .absent) :
    (withLevel requested level call).level = level := by
  unfold withLevel
  split
  · exact absurd rfl asked
  · split <;> rfl

end ProtectionLimits.Log

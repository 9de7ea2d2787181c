import ProtectionLimits.Proofs.Registry.Decision
import ProtectionLimits.Registry.Form

/-!
Contract: calls that are made at a level of the log.

Owns runs of calls, each at a level of its own, and which events can always be
written. A value that passed a check is an integer, and an integer can be written;
so only a table whose own values are no integers can end a call behind its change. Any
other call leaves, gives back and writes what it decides on.

Over a table of integers a run does to a registry what its history does, whatever
the levels, and over any table a run without a failure does. Any run at all leaves a
registry over the table that it began with.
-/

set_option autoImplicit false

namespace ProtectionLimits

/-- Whether both values of a limit are integers. -/
structure Limit.IsIntegral (limit : Limit) : Prop where
  byDefault : ∃ value, limit.defaultValue = .int value
  inSecure : ∃ value, limit.secureValue = .int value

theorem Limit.IsIntegral.initialValue {limit : Limit} (integral : limit.IsIntegral)
    (secure : Bool) : ∃ value, limit.initialValue secure = .int value := by
  cases secure with
  | true => exact integral.inSecure
  | false => exact integral.byDefault

theorem Limit.isIntegral_of_standard : ∀ limit ∈ standardTable, limit.IsIntegral := by
  intro limit member
  obtain ⟨standard, -, rfl⟩ := List.mem_map.1 member
  exact ⟨⟨_, rfl⟩, ⟨_, rfl⟩⟩

namespace Event

def IsShown (event : Event) : Prop := ∃ text, event.text = .ok text

theorem isShown_verdict (row : Row) (state : State) (value : Int) :
    (row.verdict state (.int value)).IsShown := by
  unfold Row.verdict
  split
  · exact ⟨_, rfl⟩
  · exact ⟨_, rfl⟩

/-- Writing does not stop before an event that can be written. -/
theorem writeAll_of_isShown (level : Int) {events : List Event}
    (shown : ∀ event ∈ events, event.IsShown) : (writeAll level events).2 = none := by
  induction events with
  | nil => rfl
  | cons event rest inductionHypothesis =>
      rw [List.forall_mem_cons] at shown
      obtain ⟨⟨text, written⟩, restShown⟩ := shown
      simp only [writeAll, inductionHypothesis restShown, written]
      split <;> rfl

end Event

namespace Registry

/-- Whether a call sets what it names, as opposed to switching secure processing. -/
def Call.IsSetting : Call Target → Prop
  | secureProcessing _ => False
  | _ => True

/-! ### Events of calls -/

theorem isShown_offerAt (registry : Registry) (position : Nat) (state : State) (value : Int) :
    ∀ event ∈ (registry.offerAt position state (.int value)).events, event.IsShown := by
  unfold offerAt
  split
  case h_1 row found =>
      intro event member
      rw [List.mem_singleton.1 member]
      exact Event.isShown_verdict row state value
  case h_2 =>
      intro event member
      cases member

theorem isShown_setSecureProcessing {registry : Registry} (secure : Value)
    (integral : ∀ limit ∈ registry.limits, limit.IsIntegral) :
    ∀ event ∈ (registry.setSecureProcessing secure).events, event.IsShown := by
  intro event member
  obtain ⟨row, rowMember, rfl⟩ := List.mem_map.1 member
  obtain ⟨value, isInteger⟩ :=
    (integral row.limit (List.mem_map_of_mem rowMember)).initialValue secure.isTrue
  rw [isInteger]
  exact Event.isShown_verdict row .secureProcessing value

/-- The events of a call can be written, unless the call offers values of a table that are
no integers. -/
theorem isShown_perform {registry : Registry} {call : Call Target} {reply : Reply}
    {change : Change}
    (integral : ∀ secure, call = .secureProcessing secure →
      ∀ limit ∈ registry.limits, limit.IsIntegral)
    (accepted : registry.perform call = .ok (reply, change)) :
    ∀ event ∈ change.events, event.IsShown := by
  rw [perform_eq] at accepted
  obtain ⟨⟨answer, impact⟩, decided, agreement⟩ := map_eq_ok accepted
  cases agreement
  obtain ⟨secure, rfl, rfl⟩ | ⟨position, state, value, rfl, -⟩ | ⟨content, rfl⟩ | rfl :=
    decision_cases decided
  · exact isShown_setSecureProcessing secure (integral secure rfl)
  · exact isShown_offerAt registry position state value
  · intro event member
    cases member
  · intro event member
    cases member

/-! ### One call -/

theorem performSound_of_error {registry : Registry} {call : Call Target} {fault : Fault}
    (refused : registry.perform call = .error fault) (level : Int) :
    Form.performSound registry level call = ⟨.sound registry, .error fault, []⟩ := by
  rw [Form.performSound, refused]

theorem performSound_of_isShown {registry : Registry} {call : Call Target} {reply : Reply}
    {change : Change} (accepted : registry.perform call = .ok (reply, change))
    (shown : ∀ event ∈ change.events, event.IsShown) (level : Int) :
    Form.performSound registry level call =
      ⟨.sound change.registry, .ok reply, (Event.writeAll level change.events).1⟩ := by
  have complete := Event.writeAll_of_isShown level shown
  cases written : Event.writeAll level change.events with
  | mk entries stopped =>
      rw [written] at complete
      cases complete
      simp only [Form.performSound, accepted, written]

/-- A call whose events can be written leaves what it leaves without a log. -/
theorem form_performSound {registry : Registry} {call : Call Target}
    (integral : ∀ secure, call = .secureProcessing secure →
      ∀ limit ∈ registry.limits, limit.IsIntegral)
    (level : Int) :
    (Form.performSound registry level call).form = .sound (registry.after call) := by
  cases performed : registry.perform call with
  | error fault => rw [performSound_of_error performed, after_of_error performed]
  | ok made =>
      rw [performSound_of_isShown performed (isShown_perform integral performed), after, performed]

/-- So does a call that does not fail, over whatever table. -/
theorem form_performSound_of_ok {registry : Registry} {call : Call Target} {level : Int}
    {reply : Reply} (finished : (Form.performSound registry level call).result = .ok reply) :
    (Form.performSound registry level call).form = .sound (registry.after call) := by
  cases performed : registry.perform call with
  | error fault =>
      rw [performSound_of_error performed] at finished
      cases finished
  | ok made =>
      cases written : Event.writeAll level made.2.events with
      | mk entries stopped =>
          cases stopped with
          | none => simp only [Form.performSound, performed, written, after]
          | some stop =>
              simp only [Form.performSound, performed, written] at finished
              cases finished

section Levels

variable {registry : Registry} {call : Call Target}

/-- A call that decides on a fault leaves everything as it was. -/
theorem form_perform_of_fault {fault : Fault}
    (decided : call.decision registry.limits registry.exhibit = .error fault) (level : Int) :
    (Form.sound registry).perform level call = ⟨.sound registry, .error fault, []⟩ := by
  have performed : registry.perform call = .error fault := by
    rw [perform_eq, decided]
    rfl
  exact performSound_of_error performed level

/-- Any other call leaves the registry behind its impact, gives back what it decided on,
and writes its events. -/
theorem form_perform_of_impact {reply : Reply} {impact : Impact}
    (integral : ∀ secure, call = .secureProcessing secure →
      ∀ limit ∈ registry.limits, limit.IsIntegral)
    (decided : call.decision registry.limits registry.exhibit = .ok (reply, impact))
    (level : Int) :
    (Form.sound registry).perform level call =
      ⟨.sound (registry.applied impact), .ok reply,
        (Event.writeAll level (registry.eventsOf impact)).1⟩ := by
  have performed : registry.perform call = .ok (reply, registry.carriedOut impact) := by
    rw [perform_eq, decided]
    rfl
  exact performSound_of_isShown performed (isShown_perform integral performed) level

/-- The table needs no integers for a setting. -/
theorem form_perform_of_setting {reply : Reply} {impact : Impact}
    (decided : call.decision registry.limits registry.exhibit = .ok (reply, impact))
    (isSetting : call.IsSetting) (level : Int) :
    (Form.sound registry).perform level call =
      ⟨.sound (registry.applied impact), .ok reply,
        (Event.writeAll level (registry.eventsOf impact)).1⟩ := by
  refine form_perform_of_impact ?_ decided level
  rintro secure rfl
  exact isSetting.elim

end Levels

theorem limits_stopBehind {before behind : Registry} (same : behind.limits = before.limits)
    (count : Nat) : (stopBehind before behind count).limits = before.limits := by
  unfold limits at same ⊢
  rw [stopBehind, List.map_append, List.map_take, List.map_drop, same, List.take_append_drop]

/-- A call that ends behind a part of its change still leaves a registry over its table. -/
theorem exists_sound_perform (registry : Registry) (level : Int) (call : Call Target) :
    ∃ reached, ((Form.sound registry).perform level call).form = .sound reached ∧
      reached.limits = registry.limits := by
  rw [Form.perform]
  cases performed : registry.perform call with
  | error fault =>
      rw [performSound_of_error performed]
      exact ⟨registry, rfl, rfl⟩
  | ok made =>
      have sameLimits : made.2.registry.limits = registry.limits := by
        rw [← limits_after registry call, after, performed]
      cases written : Event.writeAll level made.2.events with
      | mk entries stopped =>
          simp only [Form.performSound, performed, written]
          cases stopped with
          | none => exact ⟨made.2.registry, rfl, sameLimits⟩
          | some stop =>
              refine ⟨_, rfl, ?_⟩
              cases call with
              | secureProcessing secure => exact limits_stopBehind sameLimits _
              | _ => exact sameLimits

/-! ### Runs -/

/-- The registry behind some calls, each made at its own level of the log. -/
def Form.afterAll (form : Form) (calls : List (Int × Call Target)) : Form :=
  calls.foldl (fun reached call => (reached.perform call.1 call.2).form) form

def Form.completed? (form : Form) : List (Int × Call Target) → Option Form
  | [] => some form
  | (level, call) :: rest =>
      match (form.perform level call).result with
      | .ok _ => (form.perform level call).form.completed? rest
      | .error _ => none

/-- Over a table of integers the levels of the log decide nothing. -/
theorem afterAll_sound {registry : Registry}
    (integral : ∀ limit ∈ registry.limits, limit.IsIntegral) (calls : List (Int × Call Target)) :
    (Form.sound registry).afterAll calls = .sound (registry.afterAll (calls.map Prod.snd)) := by
  induction calls generalizing registry with
  | nil => rfl
  | cons entry rest inductionHypothesis =>
      obtain ⟨level, call⟩ := entry
      have stillIntegral : ∀ limit ∈ (registry.after call).limits, limit.IsIntegral := by
        rw [limits_after]
        exact integral
      have step : ((Form.sound registry).perform level call).form = .sound (registry.after call) :=
        form_performSound (fun _ _ => integral) level
      rw [Form.afterAll, List.foldl_cons, step, List.map_cons, afterAll_cons]
      exact inductionHypothesis stillIntegral

/-- A run leaves a registry over the table that it began with, whatever the table has. -/
theorem exists_sound_afterAll (registry : Registry) (calls : List (Int × Call Target)) :
    ∃ reached, (Form.sound registry).afterAll calls = .sound reached ∧
      reached.limits = registry.limits := by
  induction calls generalizing registry with
  | nil => exact ⟨registry, rfl, rfl⟩
  | cons entry rest inductionHypothesis =>
      obtain ⟨behind, step, sameLimits⟩ := exists_sound_perform registry entry.1 entry.2
      obtain ⟨reached, run, stillSame⟩ := inductionHypothesis behind
      refine ⟨reached, ?_, stillSame.trans sameLimits⟩
      rw [Form.afterAll, List.foldl_cons, step]
      exact run

/-- A run that completes ends with the registry behind its history. -/
theorem eq_sound_of_completed? {registry : Registry} {calls : List (Int × Call Target)}
    {form : Form} (completed : (Form.sound registry).completed? calls = some form) :
    form = .sound (registry.afterAll (calls.map Prod.snd)) := by
  induction calls generalizing registry with
  | nil =>
      cases completed
      rfl
  | cons entry rest inductionHypothesis =>
      obtain ⟨level, call⟩ := entry
      rw [Form.completed?] at completed
      split at completed
      case h_1 reply finished =>
          have step : ((Form.sound registry).perform level call).form =
              .sound (registry.after call) :=
            form_performSound_of_ok finished
          rw [step] at completed
          exact inductionHypothesis completed
      case h_2 => cases completed

end Registry

end ProtectionLimits

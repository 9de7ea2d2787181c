import ProtectionLimits.Proofs.Registry.Bootstrap

/-!
Contract: making a registry at any level of the log.

Owns what comes of a request for a registry apart from its entries (`Creation.outcome`): the
level in force decides which entries come through and nothing else, and making a registry
leaves it as it was. So a caller who asks for a level gets the registry that there would be
without, as long as it is a level that can be asked for.
-/

set_option autoImplicit false

namespace ProtectionLimits.Registry

/-- What comes of a request for a registry, whatever level it asks for. -/
def Creation.outcome (creation : Creation) : Except Fault Registry :=
  match creation.refused? with
  | some fault => .error fault
  | none => match creation.table.resolve creation.secure.isTrue with
    | .error fault => .error fault
    | .ok limits =>
        (bootstrap creation.source.get creation.source.exhibit creation.names creation.secure
          limits).2

/-- A beginning can be written in full at every level. -/
theorem writeAll_bootstrap (level : Int) (lookup : Lookup) (source : Exhibit)
    (names secure : Value) (limits : List Limit) :
    (Event.writeAll level (bootstrap lookup source names secure limits).1).2 = none :=
  Event.writeAll_of_isShown level (isShown_bootstrapRows lookup names _)

theorem result_build (creation : Creation) (level : Int) :
    (build creation level).result = creation.outcome := by
  rw [build, Creation.outcome]
  cases creation.refused? with
  | some fault => rfl
  | none =>
      cases creation.table.resolve creation.secure.isTrue with
      | error fault => rfl
      | ok limits =>
          have complete := writeAll_bootstrap level creation.source.get creation.source.exhibit
            creation.names creation.secure limits
          dsimp only
          rw [complete]

theorem level_build (creation : Creation) (level : Int) : (build creation level).level = level := by
  rw [build]
  split
  · rfl
  · split
    · rfl
    · dsimp only
      split <;> rfl

/-- Making a registry leaves the level of the log as it was, also where it fails. -/
theorem level_create (creation : Creation) (level : Int) :
    (create creation level).level = level := by
  by_cases asked : creation.level = .absent
  · rw [create, asked]
    exact level_build creation level
  · exact Log.level_withLevel level (build creation) asked

/-- A level that can be asked for does not decide what registry is made. -/
theorem result_create_of_isLevelRequest (creation : Creation)
    (valid : IsLevelRequest creation.level) (level : Int) :
    (create creation level).result = creation.outcome :=
  result_withLevel valid level (result_build creation)

end ProtectionLimits.Registry

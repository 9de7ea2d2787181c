import ProtectionLimits.Proofs.Registry.EntityCounts
import ProtectionLimits.Proofs.Setting.Spelling

/-!
Contract: limits that are set by integers and by their spellings.

Owns the calls that set one limit by a name or by its index (`Addresses`), and that nothing
counts of a setting in them but what it gives. So a spelling of an integer of 32 bits does what
the integer does, and what is read of a limit as text can be written back. Beyond 32 bits an
integer is set and its text is refused.

Does not own which texts spell an integer; `Setting.IsSpelling` says so.
-/

set_option autoImplicit false

namespace ProtectionLimits.Registry

open Setting (IsShort IsSpelling)

/-- Whether calls set the limit at a position, by a name that stands for it or by its index. -/
inductive Addresses (registry : Registry) (position : Nat) :
    (Provenance → Value → Call Target) → Prop where
  | byName (name : Value) (resolved : registry.indexOf name = position) :
      Addresses registry position (.named name)
  | byIndex : Addresses registry position (.indexed (.int position))

section Table

variable {registry : Registry} {position : Nat} {row : Row}
  (short : registry.limits.length ≤ entityCountInfoIndex)
  (held : registry.rows[position]? = some row)

include short held

theorem notAddressed_of_held : addressesEntityCounts (.int position) = false := by
  have inside : position < registry.rows.length := (List.getElem?_eq_some_iff.1 held).1
  rw [length_limits] at short
  exact addressesEntityCounts_of_lt (Nat.lt_of_lt_of_le inside short)

/-- A name whose index is that of a limit is one that the limit answers to. -/
theorem positionNamed?_of_indexOf {name : Value} (resolved : registry.indexOf name = position) :
    positionNamed? registry.limits name = some position := by
  cases named : positionNamed? registry.limits name with
  | some other =>
      rw [indexOf_of_named named] at resolved
      rw [Int.ofNat_inj.1 resolved]
  | none =>
      have inside : position < registry.rows.length := (List.getElem?_eq_some_iff.1 held).1
      rw [indexOf_of_unnamed named] at resolved
      rw [length_limits] at short
      split at resolved <;> omega

variable {address : Provenance → Value → Call Target}
  (addresses : registry.Addresses position address)

include addresses

/-- By either way a setting is parsed for the limit and then offered to its row. -/
theorem exists_decision_of_addresses (state : State) :
    ∃ reply, ∀ setting, (address (.state state) setting).IsSetting ∧
      (address (.state state) setting).decision registry.limits registry.exhibit =
        (Setting.parse row.limit.apiProperty setting).map fun value =>
          (reply, .row position ⟨state, .int value⟩) := by
  have notAddressed := notAddressed_of_held short held
  have heldLimit : registry.limits[position]? = some row.limit := by
    rw [getElem?_limits, held, Option.map_some]
  cases addresses with
  | byName name resolved =>
      refine ⟨.truth true, fun setting => ⟨trivial, ?_⟩⟩
      have named := positionNamed?_of_indexOf short held resolved
      rw [Call.decision, decideNamed_of_inside notAddressed named heldLimit]
      cases Setting.parse row.limit.apiProperty setting <;> rfl
  | byIndex =>
      refine ⟨.nothing, fun setting => ⟨trivial, ?_⟩⟩
      rw [Call.decision, decideIndexed_of_inside notAddressed heldLimit]
      cases Setting.parse row.limit.apiProperty setting <;> rfl

/-- A setting that is refused changes nothing. -/
theorem perform_of_refused {setting : Value} {fault : Fault}
    (refused : Setting.parse row.limit.apiProperty setting = .error fault) (level : Int)
    (state : State) :
    (Form.sound registry).perform level (address (.state state) setting) =
      ⟨.sound registry, .error fault, []⟩ := by
  obtain ⟨reply, decides⟩ := exists_decision_of_addresses short held addresses state
  have decided := (decides setting).2
  rw [refused] at decided
  exact form_perform_of_fault decided level

/-- A setting that is accepted is offered to the row of the limit. -/
theorem exists_perform_of_accepted (state : State) :
    ∃ reply, ∀ setting value, Setting.parse row.limit.apiProperty setting = .ok value →
      ∀ level, (Form.sound registry).perform level (address (.state state) setting) =
        ⟨.sound (registry.applied (.row position ⟨state, .int value⟩)), .ok reply,
          (Event.writeAll level
            (registry.eventsOf (.row position ⟨state, .int value⟩))).1⟩ := by
  obtain ⟨reply, decides⟩ := exists_decision_of_addresses short held addresses state
  refine ⟨reply, fun setting value accepted level => ?_⟩
  obtain ⟨isSetting, decided⟩ := decides setting
  rw [accepted] at decided
  exact form_perform_of_setting decided isSetting level

/-- Of a setting nothing counts but what it gives. -/
theorem perform_of_parse_eq {setting other : Value}
    (alike : Setting.parse row.limit.apiProperty setting =
      Setting.parse row.limit.apiProperty other) (level : Int) (state : State) :
    (Form.sound registry).perform level (address (.state state) setting) =
      (Form.sound registry).perform level (address (.state state) other) := by
  cases parsed : Setting.parse row.limit.apiProperty other with
  | error fault =>
      rw [parsed] at alike
      rw [perform_of_refused short held addresses alike,
        perform_of_refused short held addresses parsed]
  | ok value =>
      rw [parsed] at alike
      obtain ⟨reply, performs⟩ := exists_perform_of_accepted short held addresses state
      rw [performs setting value alike, performs other value parsed]

end Table

/-- The value of a limit, written down and set again: what is refused is no integer, and what is
accepted is the value itself. -/
theorem parse_display (property : Value) {value : Value} (isNumeric : value.isNumeric = true)
    (bounded : ∀ number, value.integer? = some number → 0 ≤ number ∧ number ≤ 2 ^ 31 - 1) :
    (∃ fault, Setting.parse property (.text value.display) = .error fault) ∨
      ∃ number, value = .int number ∧
        Setting.parse property (.text value.display) = .ok number := by
  cases value with
  | int number =>
      obtain ⟨nonnegative, notAbove⟩ := bounded number rfl
      have short : IsShort number := ⟨by omega, notAbove⟩
      refine .inr ⟨number, rfl, ?_⟩
      have written := Setting.parse_of_isSpelling (Setting.isSpelling_integer short) short property
      rw [Setting.parse, Setting.clamp_of_nonneg nonnegative] at written
      exact written
  | bool truth =>
      have noNumeral : Setting.value? (.text (Value.bool truth).display) = none := by
        cases truth <;> rfl
      exact .inl (Setting.exists_parse_error property noNumeral)
  | number quantity => exact .inl ⟨_, Setting.parse_written quantity property⟩
  | _ => cases isNumeric

/-- Such a value has a text. -/
theorem displayed_of_bounded {value : Value} (isNumeric : value.isNumeric = true)
    (bounded : ∀ number, value.integer? = some number → 0 ≤ number ∧ number ≤ 2 ^ 31 - 1) :
    value.displayed = .ok value.display := by
  cases value with
  | int number =>
      obtain ⟨nonnegative, notAbove⟩ := bounded number rfl
      exact displayed_int (isTooLong_of_lt (by omega))
  | bool truth => rfl
  | number quantity => rfl
  | _ => cases isNumeric

/-- A row that is offered its own value in its own state keeps both, and so do all others. -/
theorem contents_rewritten {registry : Registry} {position : Nat} {row : Row}
    (held : registry.rows[position]? = some row) :
    let reached := registry.applied (.row position ⟨row.state, row.value⟩)
    reached.rows.map Row.value = registry.rows.map Row.value ∧
      reached.rows.map Row.state = registry.rows.map Row.state := by
  have rewritten : row.offer row.state row.value = { row with isSet := true } :=
    Row.offer_of_le (Nat.le_refl row.state.rank) row.value
  constructor
  all_goals
    apply List.ext_getElem?
    intro place
    rw [List.getElem?_map, List.getElem?_map, applied, getElem?_rows_offerAt]
    by_cases same : position = place
    · subst same
      rw [if_pos rfl, held, Option.map_some, rewritten]
      rfl
    · rw [if_neg same]

/-- A limit can be set by text as well as by integers. In any registry over a table that ends
before the index of the report of entity counts, by a name that stands for the limit or by its
index, every spelling of an integer of 32 bits does all that the integer does: the registry behind
the call, what it gives back and its entries are the same. The written form of any other integer
is refused as out of range and changes nothing, while the integer itself is accepted. What is
read as the text of a limit whose value is a number from zero to the greatest integer of 32 bits
can be written back in the state of the limit: no value and no state changes. -/
theorem spellings_set_as_integers {registry : Registry}
    (short : registry.limits.length ≤ entityCountInfoIndex) {position : Nat} {row : Row}
    (held : registry.rows[position]? = some row) {address : Provenance → Value → Call Target}
    (addresses : registry.Addresses position address) :
    (∀ number content level state, IsShort number → IsSpelling content number →
      (Form.sound registry).perform level (address (.state state) (.text content)) =
        (Form.sound registry).perform level (address (.state state) (.int number))) ∧
    (∀ number level state, ¬ IsShort number →
      (∃ fault,
        (Form.sound registry).perform level
            (address (.state state) (.text (Decimal.integer number))) =
          ⟨.sound registry, .error fault, []⟩ ∧
        fault.report .identity = Fault.refusalReport (Decimal.integer number)
          row.limit.apiProperty "out of range") ∧
      ∃ reply,
        ((Form.sound registry).perform level (address (.state state) (.int number))).result =
          .ok reply) ∧
    ∀ name, registry.indexOf name = position → row.value.isNumeric = true →
      (∀ number, row.value.integer? = some number → 0 ≤ number ∧ number ≤ 2 ^ 31 - 1) →
      ∃ content, registry.answer (.textNamed name) = .ok (.text content) ∧
        ∀ level, ∃ reached,
          ((Form.sound registry).perform level
            (address (.state row.state) (.text content))).form = .sound reached ∧
          reached.rows.map Row.value = registry.rows.map Row.value ∧
          reached.rows.map Row.state = registry.rows.map Row.state := by
  refine ⟨?_, ?_, ?_⟩
  · intro number content level state isShort isSpelling
    have alike := Setting.parse_of_isSpelling isSpelling isShort row.limit.apiProperty
    exact perform_of_parse_eq short held addresses alike level state
  · intro number level state long
    have refused := Setting.parse_integer_of_not_isShort long row.limit.apiProperty
    obtain ⟨reply, performs⟩ := exists_perform_of_accepted short held addresses state
    refine ⟨⟨_, perform_of_refused short held addresses refused level state,
      Fault.report_settingOutOfRange _ _⟩, reply, ?_⟩
    rw [performs (.int number) _ rfl]
  · intro name resolved isNumeric bounded
    have named := positionNamed?_of_indexOf short held resolved
    refine ⟨row.value.display, ?_, fun level => ?_⟩
    · rw [answer, textNamed_of_named (notAddressed_of_held short held) named held, rowText,
        displayed_of_bounded isNumeric bounded]
      rfl
    · rcases parse_display row.limit.apiProperty isNumeric bounded with
        ⟨fault, refused⟩ | ⟨number, isInteger, accepted⟩
      · rw [perform_of_refused short held addresses refused]
        exact ⟨registry, rfl, rfl, rfl⟩
      · obtain ⟨reply, performs⟩ := exists_perform_of_accepted short held addresses row.state
        rw [performs _ _ accepted, ← isInteger]
        exact ⟨_, rfl, contents_rewritten held⟩

/-- The limit for names in the standard table: a padded spelling with a sign and a line end sets
what the integer sets, the first integer beyond 32 bits can be set and its text cannot, and the
value by default can be written back. -/
theorem spellings_set_as_integers_standard :
    ∃ registry : Registry, registry.limits = Limit.standardTable ∧
      (Form.sound registry).perform 10
          (.named (.text "max_xml_name_limit") (.state .environment) (.text "+0012\n")) =
        (Form.sound registry).perform 10
          (.named (.text "max_xml_name_limit") (.state .environment) (.int 12)) ∧
      (∃ fault,
        (Form.sound registry).perform 10
            (.named (.text "max_xml_name_limit") (.state .apiProperty)
              (.text (Decimal.integer 2147483648))) =
          ⟨.sound registry, .error fault, []⟩ ∧
        (fault.report .identity).errorClass = .limitsNumber) ∧
      (∃ reply,
        ((Form.sound registry).perform 10 (.named (.text "max_xml_name_limit")
          (.state .apiProperty) (.int 2147483648))).result = .ok reply) ∧
      ∃ content, registry.answer (.textNamed (.text "max_xml_name_limit")) =
          .ok (.text content) ∧
        ∃ reached,
          ((Form.sound registry).perform 10 (.named (.text "max_xml_name_limit")
            (.state .default) (.text content))).form = .sound reached ∧
          reached.rows.map Row.value = registry.rows.map Row.value := by
  let registry : Registry :=
    ⟨Limit.standardTable.map (Row.initial false), .text "", .bool false, .text "source", .absent⟩
  have table : registry.limits = Limit.standardTable := rfl
  have short : registry.limits.length ≤ entityCountInfoIndex := by
    rw [table]
    decide
  have held : registry.rows[7]? = some (Row.initial false StandardLimit.maxName.limit) := rfl
  have resolved : registry.indexOf (.text "max_xml_name_limit") = (7 : Nat) := by decide
  obtain ⟨alike, parted, writtenBack⟩ :=
    spellings_set_as_integers short held (.byName (.text "max_xml_name_limit") resolved)
  have isSpelling : IsSpelling "+0012\n" 12 :=
    ⟨['+', '0', '0', '1', '2'], ⟨false, ['0', '0', '1', '2']⟩, .inl rfl, .plus (by decide),
      by decide, by decide⟩
  have long : ¬ IsShort 2147483648 := by decide
  obtain ⟨⟨fault, refused, report⟩, accepted⟩ := parted 2147483648 10 .apiProperty long
  have isNumber : (fault.report .identity).errorClass = .limitsNumber := by
    rw [report]
    rfl
  obtain ⟨content, read, written⟩ := writtenBack _ resolved rfl (by decide)
  obtain ⟨reached, isReached, sameValues, -⟩ := written 10
  exact ⟨registry, table, alike 12 _ 10 .environment (by decide) isSpelling,
    ⟨fault, refused, isNumber⟩, accepted, content, read, reached, isReached, sameValues⟩

end ProtectionLimits.Registry

import ProtectionLimits.Warnings

/-!
Contract: a warning that is printed to a tracker.

Owns the keys of warnings about texts, what each operation does to the question whether such
a warning counts as printed, and the ways in which printing ends (`print_cases`): the
warning counts as printed already, its line is written, the attempt fails for an ordinary
reason and leaves no record, or it is cut short by a request to stop and leaves one. A stream
may do anything with a line short of storing only a part of it without failing, and a complaint
may have any text or fail for any cause instead of having one.

Does not own calls of a session; `Proofs.Warnings.Calls` does.
-/

set_option autoImplicit false

namespace ProtectionLimits

namespace Tracker

def textKey (parser property : String) : Value × Value := (.text parser, .text property)

/-- Whether the warning about a parser and a property counts as printed. -/
def warned (tracker : Tracker) (parser property : String) : Bool :=
  tracker.holds (textKey parser property)

section TextKeys

variable {tracker : Tracker} {parser property otherParser otherProperty : String}

theorem sameKey_textKey_iff {key : Value × Value} :
    sameKey (textKey parser property) key = true ↔ key = textKey parser property := by
  rw [sameKey, textKey, Bool.and_eq_true, Value.equals_text_iff, Value.equals_text_iff,
    Prod.ext_iff]

theorem textKey_inj : textKey parser property = textKey otherParser otherProperty ↔
    parser = otherParser ∧ property = otherProperty := by
  simp only [textKey, Prod.mk.injEq, Value.text.injEq]

theorem warned_iff : tracker.warned parser property = true ↔
    textKey parser property ∈ tracker.keys := by
  simp only [warned, holds, List.any_eq_true, sameKey_textKey_iff, exists_eq_right]

@[simp] theorem warned_empty : empty.warned parser property = false := rfl

theorem length_record {key : Value × Value} :
    (tracker.record key).keys.length = tracker.keys.length + 1 :=
  List.length_append

/-- A record is of one warning and leaves the others alone. -/
theorem warned_record :
    (tracker.record (textKey otherParser otherProperty)).warned parser property =
      (tracker.warned parser property ||
        (parser == otherParser && property == otherProperty)) := by
  rw [Bool.eq_iff_iff]
  simp only [warned_iff, record, List.mem_append, List.mem_singleton, textKey_inj, Bool.or_eq_true,
    Bool.and_eq_true, beq_iff_eq]

/-- What is taken back is one warning, and the others are left alone. -/
theorem warned_forget :
    (tracker.forget (textKey otherParser otherProperty)).warned parser property =
      (tracker.warned parser property &&
        !(parser == otherParser && property == otherProperty)) := by
  have different : sameKey (textKey otherParser otherProperty) (textKey parser property) =
      (parser == otherParser && property == otherProperty) := by
    rw [Bool.eq_iff_iff, sameKey_textKey_iff, textKey_inj, Bool.and_eq_true, beq_iff_eq,
      beq_iff_eq]
  rw [Bool.eq_iff_iff, warned_iff, Bool.and_eq_true, warned_iff, forget, List.mem_filter,
    different]

theorem addIfAbsent_text :
    tracker.addIfAbsent (.text parser) (.text property) =
      .ok (if tracker.warned parser property then (false, tracker)
        else (true, tracker.record (textKey parser property))) :=
  rfl

theorem discard_text :
    tracker.discard (.text parser) (.text property) =
      .ok (tracker.forget (textKey parser property)) :=
  rfl

end TextKeys

end Tracker

namespace Warnings

open Tracker (textKey)

section Printing

variable {tracker : Tracker} {stream : Stream} {parser property : String} {complaint : Complaint}

/-- A parser that is a text stands in its line as it is. -/
theorem formatted_text :
    formatted (.text parser) complaint = complaint.display.map (line parser) := by
  cases shown : complaint.display <;> simp only [formatted, shown] <;> rfl

/-- An attempt succeeds if the complaint has a text and the line with it is written, and then
all of the line is stored. -/
theorem writeLine_ok_iff {stored : String} :
    writeLine stream (.text parser) complaint = (stored, .ok ()) ↔
      ∃ text, complaint.display = .ok text ∧ stored = line parser text ∧
        (stream.write (line parser text)).2 = .ok () := by
  rw [writeLine, formatted_text]
  cases complaint.display with
  | error fault =>
      simp only [Except.map, Prod.mk.injEq, reduceCtorEq, and_false, false_and, exists_false]
  | ok text =>
      constructor
      · intro attempt
        have written := congrArg Prod.snd attempt
        have all := stream.whole _ written
        exact ⟨text, rfl, (congrArg Prod.fst attempt).symm.trans all, written⟩
      · rintro ⟨_, ⟨⟩, rfl, written⟩
        exact Prod.ext (stream.whole _ written) written

/-- An attempt fails for the cause for which the complaint has no text or the line with it is
not written. -/
theorem writeLine_error_iff {fault : Fault} :
    (writeLine stream (.text parser) complaint).2 = .error fault ↔
      complaint.display = .error fault ∨
        ∃ text, complaint.display = .ok text ∧
          (stream.write (line parser text)).2 = .error fault := by
  rw [writeLine, formatted_text]
  cases complaint.display with
  | error cause =>
      simp only [Except.map, Except.error.injEq, reduceCtorEq, false_and, exists_false, or_false]
  | ok text => simp only [Except.map, reduceCtorEq, false_or, Except.ok.injEq, exists_eq_left']

/-- The ways in which printing ends. -/
theorem print_cases :
    (tracker.warned parser property = true ∧
      print tracker stream (.text parser) (.text property) complaint = ⟨tracker, "", .ok false⟩) ∨
    (tracker.warned parser property = false ∧
      ((∃ stored, writeLine stream (.text parser) complaint = (stored, .ok ()) ∧
        print tracker stream (.text parser) (.text property) complaint =
          ⟨tracker.record (textKey parser property), stored, .ok true⟩) ∨
      ∃ stored fault, writeLine stream (.text parser) complaint = (stored, .error fault) ∧
        print tracker stream (.text parser) (.text property) complaint =
          ⟨if fault.errorClass.isOrdinary then tracker
            else tracker.record (textKey parser property), stored, .error fault⟩)) := by
  cases known : tracker.warned parser property with
  | true =>
      refine .inl ⟨rfl, ?_⟩
      simp only [print, Tracker.addIfAbsent_text, known, if_true]
  | false =>
      refine .inr ⟨rfl, ?_⟩
      simp only [print, Tracker.addIfAbsent_text, known, Bool.false_eq_true, if_false]
      rcases writeLine stream (.text parser) complaint with ⟨stored, ended⟩
      cases ended with
      | ok _ => exact .inl ⟨stored, rfl, rfl⟩
      | error fault =>
          refine .inr ⟨stored, fault, rfl, ?_⟩
          simp only [rolledBack, Tracker.withdraw_record]

end Printing

end Warnings

end ProtectionLimits

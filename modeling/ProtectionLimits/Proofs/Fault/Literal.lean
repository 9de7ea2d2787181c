import ProtectionLimits.Fault.Report

/-!
Contract: messages that show their arguments in literal form only.

Owns templates whose fields show whole arguments in literal form, and that nothing else
of the arguments matters for them. The message of an item that is not managed holds a
registry with all its parts, and a translation could reach for any of them. While it shows
literal forms only, as the library itself does, registries of one literal form are
reported alike.
-/

set_option autoImplicit false

namespace ProtectionLimits

namespace Text.Template

/-- Whether a piece shows nothing of an argument but its literal form. -/
def Piece.showsLiteral : Piece → Bool
  | character _ => true
  | field place =>
      (splitPath place.name).2.isEmpty && place.conversion == some 'r' &&
        !place.layout.contains '{'
  | failure _ => true

/-- Whether a template shows nothing of its arguments but their literal forms. -/
def showsLiterals (template : String) : Bool :=
  (scan .text template.toList).all Piece.showsLiteral

section Filling

variable {Item : Type} {reader : Reader Item} {left right : List Item}

theorem filled_of_sameLiterals (sameLiterals : left.map reader.literal = right.map reader.literal)
    {field : Field} (shows : (Piece.field field).showsLiteral = true)
    (leftExpand rightExpand : Expansion) (numbering : Numbering) :
    field.filled reader left leftExpand numbering =
      field.filled reader right rightExpand numbering := by
  simp only [Piece.showsLiteral, Bool.and_eq_true, List.isEmpty_iff, beq_iff_eq,
    Bool.not_eq_true'] at shows
  obtain ⟨⟨wholeArgument, literalForm⟩, flat⟩ := shows
  simp only [Field.filled, bind, Except.bind, pure, Except.pure, wholeArgument, literalForm, flat,
    path, Reader.followAll, Reader.shown, Bool.false_eq_true, if_false]
  cases numbering.select (splitPath field.name).1 with
  | error failure => rfl
  | ok selected =>
      obtain ⟨position, next⟩ := selected
      have agreement :
          left[position]?.map reader.literal = right[position]?.map reader.literal := by
        rw [← List.getElem?_map, sameLiterals, List.getElem?_map]
      dsimp only
      cases heldLeft : left[position]? with
      | none =>
          rw [heldLeft, Option.map_none, eq_comm, Option.map_eq_none_iff] at agreement
          rw [agreement]
      | some item =>
          rw [heldLeft, Option.map_some, eq_comm, Option.map_eq_some_iff] at agreement
          obtain ⟨other, heldRight, sameLiteral⟩ := agreement
          rw [heldRight]
          dsimp only
          rw [sameLiteral]

theorem fillPieces_of_sameLiterals
    (sameLiterals : left.map reader.literal = right.map reader.literal) {pieces : List Piece}
    (shows : pieces.all Piece.showsLiteral = true) (leftExpand rightExpand : Expansion)
    (numbering : Numbering) :
    fillPieces reader left leftExpand numbering pieces =
      fillPieces reader right rightExpand numbering pieces := by
  induction pieces generalizing numbering with
  | nil => rfl
  | cons piece rest inductionHypothesis =>
      rw [List.all_cons, Bool.and_eq_true] at shows
      have restFilled := inductionHypothesis shows.2
      cases piece with
      | character character => simp only [fillPieces, restFilled]
      | field field =>
          simp only [fillPieces, restFilled,
            filled_of_sameLiterals sameLiterals shows.1 leftExpand rightExpand]
      | failure failure => rfl

/-- Such a template is filled alike by arguments of the same literal forms. -/
theorem fill_of_sameLiterals (sameLiterals : left.map reader.literal = right.map reader.literal)
    {template : String} (shows : showsLiterals template = true) :
    fill reader template left = fill reader template right := by
  simp only [fill, deepest, fillWithin]
  rw [fillPieces_of_sameLiterals sameLiterals shows]

end Filling

end Text.Template

namespace Fault

open Text.Template (showsLiterals)

/-- Whether two failures are one, but for the parts of a registry in it. -/
inductive IsAlike : Fault → Fault → Prop where
  | same (fault : Fault) : IsAlike fault fault
  | unmanaged (target : Target) {left right : Exhibit}
      (sameText : left.written = right.written) :
      IsAlike (.limitUnmanaged target left) (.limitUnmanaged target right)

/-- Failures that are alike are reported as one. -/
theorem IsAlike.report_eq {left right : Fault} (alike : left.IsAlike right)
    {translate : Translator}
    (shows : ∀ template, translate Wording.limitUnmanaged.template = .ok template →
      showsLiterals template = true) :
    left.report translate = right.report translate := by
  cases alike with
  | same => rfl
  | @unmanaged target left right sameText =>
      have sameLiterals : [target.exhibit, left].map (Exhibit.reader translate).literal =
          [target.exhibit, right].map (Exhibit.reader translate).literal := by
        simp only [List.map_cons, List.map_nil, Exhibit.reader, Exhibit.shownLiteral, sameText]
      have sameMessage : (limitUnmanaged target left).message translate =
          (limitUnmanaged target right).message translate := by
        simp only [message, worded?, Wording.lookUp]
        cases found : translate Wording.limitUnmanaged.template with
        | error reason => rfl
        | ok template =>
            exact Text.Template.fill_of_sameLiterals sameLiterals (shows template found)
      rw [report, report, sameMessage]
      rfl

end Fault

end ProtectionLimits

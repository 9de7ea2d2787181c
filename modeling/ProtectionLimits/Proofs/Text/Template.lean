import ProtectionLimits.Text.Template

/-!
Contract: templates that show their arguments whole and in order.

Owns which templates have no other fields than those that show the next argument, in literal or
in display form (`forms?`), and what comes of such a template: what stands between the fields is
taken over, and the arguments stand in their places (`fill_of_forms`). The first argument that
does not have the form that is asked for is why the template cannot be filled.

Does not own any other field, nor layouts.
-/

set_option autoImplicit false

namespace ProtectionLimits.Text

namespace Template

/-- The forms of an argument that stands alone in a field. -/
inductive Form where
  | literal
  | display

/-- The field that shows the next argument in a form. -/
def Form.field : Form → Field
  | literal => ⟨[], some 'r', []⟩
  | display => ⟨[], none, []⟩

def Reader.whole {Item : Type} (reader : Reader Item) : Form × Item → Except Failure String
  | (.literal, item) => reader.literal item
  | (.display, item) => reader.laidOut item []

/-- The forms in which some pieces show one argument after the other, if they do nothing else. -/
def forms? : List Piece → Option (List Form)
  | [] => some []
  | .character _ :: rest => forms? rest
  | .field ⟨[], some 'r', []⟩ :: rest => (forms? rest).map (.literal :: ·)
  | .field ⟨[], none, []⟩ :: rest => (forms? rest).map (.display :: ·)
  | _ => none

def assembled : List Piece → List String → List Char
  | .character character :: rest, texts => character :: assembled rest texts
  | .field _ :: rest, text :: texts => text.toList ++ assembled rest texts
  | _, _ => []

section Filling

variable {Item : Type} (reader : Reader Item) (expand : Expansion)

/-- The number of the next argument, if arguments are taken in turn. -/
def Numbering.next? : Numbering → Option Nat
  | undecided => some 0
  | automatic next => some next
  | manual => none

/-- A field for the next argument takes it. -/
theorem filled_of_next (form : Form) {arguments : List Item} {numbering : Numbering} {next : Nat}
    {argument : Item} (inTurn : numbering.next? = some next)
    (found : arguments[next]? = some argument) :
    form.field.filled reader arguments expand numbering =
      (reader.whole (form, argument)).map fun text => (text.toList, .automatic (next + 1)) := by
  have selected : numbering.select [] = .ok (next, .automatic (next + 1)) := by
    cases numbering with
    | undecided => cases inTurn; rfl
    | automatic other => cases inTurn; rfl
    | manual => cases inTurn
  cases form with
  | literal =>
      simp only [Form.field, Field.filled, splitPath, List.takeWhile_nil, List.dropWhile_nil,
        selected, found, path, Reader.followAll, Reader.shown, Reader.whole, bind, Except.bind,
        pure, Except.pure]
      cases reader.literal argument with
      | error failure => rfl
      | ok text => simp [Except.map, textLaidOut, Layout.text]
  | display =>
      simp only [Form.field, Field.filled, splitPath, List.takeWhile_nil, List.dropWhile_nil,
        selected, found, path, Reader.followAll, Reader.shown, Reader.whole, bind, Except.bind,
        pure, Except.pure]
      cases reader.laidOut argument [] with
      | error failure => rfl
      | ok text => rfl

/-- Some pieces that take one argument after the other from those that are left, and the text they
come to. -/
def FillsFrom (arguments : List Item) (pieces : List Piece) (forms : List Form)
    (later : List Item) (numbering : Numbering) : Prop :=
  ∃ last, fillPieces reader arguments expand numbering pieces =
    ((forms.zip later).mapM reader.whole).map fun texts => (assembled pieces texts, last)

theorem fillsFrom_character {arguments later : List Item} {rest : List Piece} {forms : List Form}
    {numbering : Numbering} (character : Char)
    (filled : FillsFrom reader expand arguments rest forms later numbering) :
    FillsFrom reader expand arguments (.character character :: rest) forms later numbering := by
  obtain ⟨last, filled⟩ := filled
  refine ⟨last, ?_⟩
  rw [fillPieces, filled]
  cases (forms.zip later).mapM reader.whole <;> rfl

/-- A field in front takes the next argument, and what is behind it takes those behind that. -/
theorem fillsFrom_field (form : Form) {earlier later : List Item} {rest : List Piece}
    {forms : List Form} {numbering : Numbering} (inTurn : numbering.next? = some earlier.length)
    (enough : (form :: forms).length = later.length)
    (filled : ∀ argument others, forms.length = others.length →
      FillsFrom reader expand ((earlier ++ [argument]) ++ others) rest forms others
        (.automatic (earlier ++ [argument]).length)) :
    FillsFrom reader expand (earlier ++ later) (.field form.field :: rest) (form :: forms) later
      numbering := by
  cases later with
  | nil => cases enough
  | cons argument others =>
      obtain ⟨last, filled⟩ := filled argument others (Nat.succ.inj enough)
      rw [List.append_assoc, List.singleton_append, List.length_append, List.length_singleton]
        at filled
      have found : (earlier ++ argument :: others)[earlier.length]? = some argument := by simp
      refine ⟨last, ?_⟩
      rw [fillPieces, filled_of_next reader expand form inTurn found, List.zip_cons_cons,
        List.mapM_cons]
      cases reader.whole (form, argument) with
      | error failure => rfl
      | ok text =>
          simp only [bind, Except.bind, Except.map, filled]
          cases (forms.zip others).mapM reader.whole <;> rfl

/-- Pieces that show one argument after the other take the arguments from the next one on. -/
theorem fillsFrom_of_forms {pieces : List Piece} {forms : List Form}
    (inOrder : forms? pieces = some forms) {earlier later : List Item}
    (enough : forms.length = later.length) {numbering : Numbering}
    (inTurn : numbering.next? = some earlier.length) :
    FillsFrom reader expand (earlier ++ later) pieces forms later numbering := by
  induction pieces using forms?.induct generalizing forms earlier later numbering with
  | case1 =>
      cases inOrder
      exact ⟨numbering, rfl⟩
  | case2 character rest inductionHypothesis =>
      exact fillsFrom_character reader expand character (inductionHypothesis inOrder enough inTurn)
  | case3 rest inductionHypothesis =>
      obtain ⟨behind, restInOrder, rfl⟩ := Option.map_eq_some_iff.1 inOrder
      exact fillsFrom_field reader expand .literal inTurn enough fun _ _ restEnough =>
        inductionHypothesis restInOrder restEnough rfl
  | case4 rest inductionHypothesis =>
      obtain ⟨behind, restInOrder, rfl⟩ := Option.map_eq_some_iff.1 inOrder
      exact fillsFrom_field reader expand .display inTurn enough fun _ _ restEnough =>
        inductionHypothesis restInOrder restEnough rfl
  | case5 pieces notEmpty notCharacter notLiteral notDisplay =>
      rw [forms?] at inOrder
      · cases inOrder
      · exact notEmpty
      · exact notCharacter
      · exact notLiteral
      · exact notDisplay

end Filling

end Template

/-- A template that shows its arguments whole and in order has them in the places of its fields. -/
theorem fill_of_forms {Item : Type} (reader : Template.Reader Item) {template : String}
    {forms : List Template.Form}
    (inOrder : Template.forms? (Template.scan .text template.toList) = some forms)
    {arguments : List Item} (enough : forms.length = arguments.length) :
    fill reader template arguments =
      ((forms.zip arguments).mapM reader.whole).map fun texts =>
        String.ofList (Template.assembled (Template.scan .text template.toList) texts) := by
  have isFirst : Template.Numbering.undecided.next? = some ([] : List Item).length := rfl
  obtain ⟨last, filled⟩ := Template.fillsFrom_of_forms reader
    (Template.fillWithin reader arguments 1) inOrder enough isFirst
  rw [List.nil_append] at filled
  rw [fill, Template.deepest, Template.fillWithin]
  dsimp only
  rw [filled]
  cases (forms.zip arguments).mapM reader.whole with
  | error failure => rfl
  | ok texts => rfl

end ProtectionLimits.Text

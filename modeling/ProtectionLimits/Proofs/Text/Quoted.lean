import Mathlib.Algebra.Group.Nat.Defs
import ProtectionLimits.Text.Quoted

/-!
Contract: quoted texts can be read back.

Owns that the end of a quoted text is seen from its beginning: whatever follows two quoted
texts, if the wholes are one, the texts are and so is what follows (`quoted_append_inj`). The
quote is escaped within the text, and no escape is the beginning of another.

Owns also that a quoted text is one line, whatever the text is.

Does not own quoted bytes.
-/

set_option autoImplicit false

namespace ProtectionLimits.Text

/-! ### Hexadecimal digits -/

theorem hexDigit_inj {left right : Nat} (leftSmall : left < 16) (rightSmall : right < 16)
    (same : hexDigit left = hexDigit right) : left = right := by
  have distinct : ∀ left right : Fin 16, hexDigit left = hexDigit right → left = right := by decide
  exact congrArg Fin.val (distinct ⟨left, leftSmall⟩ ⟨right, rightSmall⟩ same)

theorem length_hex (number width : Nat) : (hex number width).length = width := by
  induction width generalizing number with
  | zero => rfl
  | succ width inductionHypothesis => rw [hex, List.length_append, inductionHypothesis]; rfl

/-- As many digits as a number has room for determine it. -/
theorem hex_inj {left right width : Nat} (leftSmall : left < 16 ^ width)
    (rightSmall : right < 16 ^ width) (same : hex left width = hex right width) :
    left = right := by
  induction width generalizing left right with
  | zero =>
      rw [Nat.pow_zero] at leftSmall rightSmall
      omega
  | succ width inductionHypothesis =>
      rw [hex, hex] at same
      obtain ⟨fronts, lasts⟩ := List.append_inj' same rfl
      rw [Nat.pow_succ] at leftSmall rightSmall
      have frontsSame := inductionHypothesis (by omega) (by omega) fronts
      have lastsSame := hexDigit_inj (Nat.mod_lt left (by omega)) (Nat.mod_lt right (by omega))
        (List.cons.inj lasts).1
      omega

/-- The letter of a hexadecimal escape. -/
def hexLetter (point : Nat) : Char :=
  if point ≤ 0xff then 'x' else if point ≤ 0xffff then 'u' else 'U'

/-- The number of digits of a hexadecimal escape. -/
def hexWidth (point : Nat) : Nat := if point ≤ 0xff then 2 else if point ≤ 0xffff then 4 else 8

theorem hexEscape_eq (point : Nat) :
    hexEscape point = '\\' :: hexLetter point :: hex point (hexWidth point) := by
  unfold hexEscape hexLetter hexWidth
  split
  · rfl
  · split <;> rfl

/-- The letter of an escape tells how many digits follow. -/
theorem hexWidth_eq (point : Nat) :
    hexWidth point =
      if hexLetter point = 'x' then 2 else if hexLetter point = 'u' then 4 else 8 := by
  unfold hexLetter hexWidth
  split
  · rfl
  · split <;> rfl

/-- A character has no more digits than its escape has room for. -/
theorem toNat_lt_hexWidth (character : Char) :
    character.toNat < 16 ^ hexWidth character.toNat := by
  have valid : character.toNat < 0x110000 := by
    rcases character.valid with low | ⟨-, high⟩
    · exact Nat.lt_trans low (by decide)
    · exact high
  unfold hexWidth
  split
  · omega
  · split <;> omega

theorem hexEscape_append_inj {left right : Char} {leftRest rightRest : List Char}
    (same : hexEscape left.toNat ++ leftRest = hexEscape right.toNat ++ rightRest) :
    left = right ∧ leftRest = rightRest := by
  rw [hexEscape_eq, hexEscape_eq] at same
  simp only [List.cons_append, List.cons.injEq, true_and] at same
  obtain ⟨letters, digits⟩ := same
  have widths : hexWidth left.toNat = hexWidth right.toNat := by
    rw [hexWidth_eq, hexWidth_eq, letters]
  obtain ⟨points, rests⟩ := List.append_inj digits (by rw [length_hex, length_hex, widths])
  rw [widths] at points
  have leftSmall := toNat_lt_hexWidth left
  rw [widths] at leftSmall
  exact ⟨Char.toNat_inj.1 (hex_inj leftSmall (toNat_lt_hexWidth right) points), rests⟩

/-! ### Escapes -/

/-- What a short escape stands for. -/
def meaning (mark : Char) : Char :=
  if mark = 'n' then '\n' else if mark = 'r' then '\r' else if mark = 't' then '\t' else mark

/-- Whether a character can be the quote around a text. -/
def IsQuote (quote : Char) : Prop := quote = singleQuote ∨ quote = doubleQuote

theorem isQuote_quoteFor (characters : List Char) : IsQuote (quoteFor characters) := by
  unfold quoteFor
  split
  · exact .inr rfl
  · exact .inl rfl

/-- A character stands for itself, or it has a short escape that tells what it is, or a
hexadecimal one. -/
theorem escaped_cases {quote : Char} (isQuote : IsQuote quote) (character : Char) :
    (character ≠ quote ∧ character ≠ '\\' ∧ escaped quote character = [character]) ∨
    (∃ mark, escaped quote character = ['\\', mark] ∧ meaning mark = character ∧
      mark ∉ ['x', 'u', 'U']) ∨
    escaped quote character = hexEscape character.toNat := by
  by_cases isSpecial : character = quote ∨ character = '\\'
  · refine .inr (.inl ⟨character, by simp [escaped, shortEscape?, isSpecial], ?_⟩)
    rcases isSpecial with rfl | rfl
    · rcases isQuote with rfl | rfl <;> decide
    · decide
  · have notSpecial := not_or.1 isSpecial
    by_cases isBlank : character = '\n' ∨ character = '\r' ∨ character = '\t'
    · rcases isBlank with rfl | rfl | rfl
      · exact .inr (.inl ⟨'n', by simp [escaped, shortEscape?, notSpecial], by decide⟩)
      · exact .inr (.inl ⟨'r', by simp [escaped, shortEscape?, notSpecial], by decide⟩)
      · exact .inr (.inl ⟨'t', by simp [escaped, shortEscape?, notSpecial], by decide⟩)
    · have unmarked : shortEscape? quote character = none := by
        simp_all [shortEscape?]
      cases visible : isPrintable character with
      | true => exact .inl ⟨notSpecial.1, notSpecial.2, by simp [escaped, unmarked, visible]⟩
      | false => exact .inr (.inr (by simp [escaped, unmarked, visible]))

/-- The letter of a hexadecimal escape is no mark of a short one. -/
theorem hexLetter_mem (point : Nat) : hexLetter point ∈ ['x', 'u', 'U'] := by
  unfold hexLetter
  split
  · decide
  · split <;> decide

/-- The characters behind an escape tell which one it was. -/
theorem escaped_append_inj {quote : Char} (isQuote : IsQuote quote) {left right : Char}
    {leftRest rightRest : List Char}
    (same : escaped quote left ++ leftRest = escaped quote right ++ rightRest) :
    left = right ∧ leftRest = rightRest := by
  rcases escaped_cases isQuote left with ⟨-, leftPlain, leftIs⟩ | ⟨leftMark, leftIs, leftMeans,
    leftShort⟩ | leftIs
  · rcases escaped_cases isQuote right with ⟨-, -, rightIs⟩ | ⟨rightMark, rightIs, -, -⟩ | rightIs
    · rw [leftIs, rightIs] at same
      exact List.cons.inj same
    · rw [leftIs, rightIs] at same
      exact absurd (List.cons.inj same).1 leftPlain
    · rw [leftIs, rightIs, hexEscape_eq] at same
      exact absurd (List.cons.inj same).1 leftPlain
  · rcases escaped_cases isQuote right with ⟨-, rightPlain, rightIs⟩ | ⟨rightMark, rightIs,
      rightMeans, -⟩ | rightIs
    · rw [leftIs, rightIs] at same
      exact absurd (List.cons.inj same).1.symm rightPlain
    · rw [leftIs, rightIs] at same
      obtain ⟨marks, rests⟩ := List.cons.inj (List.cons.inj same).2
      exact ⟨by rw [← leftMeans, marks, rightMeans], rests⟩
    · rw [leftIs, rightIs, hexEscape_eq] at same
      have letter := (List.cons.inj (List.cons.inj same).2).1
      exact absurd (letter ▸ hexLetter_mem right.toNat) leftShort
  · rcases escaped_cases isQuote right with ⟨-, rightPlain, rightIs⟩ | ⟨rightMark, rightIs, -,
      rightShort⟩ | rightIs
    · rw [leftIs, rightIs, hexEscape_eq] at same
      exact absurd (List.cons.inj same).1.symm rightPlain
    · rw [leftIs, rightIs, hexEscape_eq] at same
      have letter := (List.cons.inj (List.cons.inj same).2).1
      exact absurd (letter ▸ hexLetter_mem left.toNat) rightShort
    · rw [leftIs, rightIs] at same
      exact hexEscape_append_inj same

/-- The quote itself does not begin an escape. -/
theorem escaped_append_ne {quote : Char} (isQuote : IsQuote quote) (character : Char)
    (rest later : List Char) : escaped quote character ++ rest ≠ quote :: later := by
  have notBackslash : '\\' ≠ quote := by
    rcases isQuote with rfl | rfl <;> decide
  intro same
  rcases escaped_cases isQuote character with ⟨notQuote, -, plain⟩ | ⟨mark, short, -, -⟩ | long
  · rw [plain] at same
    exact notQuote (List.cons.inj same).1
  · rw [short] at same
    exact notBackslash (List.cons.inj same).1
  · rw [long, hexEscape_eq] at same
    exact notBackslash (List.cons.inj same).1

/-! ### Whole texts -/

theorem flatMap_escaped_append_inj {quote : Char} (isQuote : IsQuote quote)
    {left right leftRest rightRest : List Char}
    (same : left.flatMap (escaped quote) ++ quote :: leftRest =
      right.flatMap (escaped quote) ++ quote :: rightRest) :
    left = right ∧ leftRest = rightRest := by
  induction left generalizing right with
  | nil =>
      cases right with
      | nil => exact ⟨rfl, (List.cons.inj same).2⟩
      | cons character more =>
          rw [List.flatMap_cons, List.append_assoc] at same
          exact absurd same.symm (escaped_append_ne isQuote character _ _)
  | cons character more inductionHypothesis =>
      cases right with
      | nil =>
          rw [List.flatMap_cons, List.append_assoc] at same
          exact absurd same (escaped_append_ne isQuote character _ _)
      | cons other others =>
          rw [List.flatMap_cons, List.flatMap_cons, List.append_assoc, List.append_assoc] at same
          obtain ⟨rfl, rests⟩ := escaped_append_inj isQuote same
          obtain ⟨rfl, later⟩ := inductionHypothesis rests
          exact ⟨rfl, later⟩

/-- What follows quoted texts does not hide where they end. -/
theorem quoted_append_inj {left right leftRest rightRest : String}
    (same : quoted left ++ leftRest = quoted right ++ rightRest) :
    left = right ∧ leftRest = rightRest := by
  have characters := congrArg String.toList same
  simp only [quoted, String.toList_append, String.toList_ofList, quotedCharacters,
    List.cons_append, List.append_assoc, List.nil_append] at characters
  obtain ⟨quotes, bodies⟩ := List.cons.inj characters
  rw [quotes] at bodies
  obtain ⟨texts, rests⟩ := flatMap_escaped_append_inj (isQuote_quoteFor right.toList) bodies
  exact ⟨String.toList_injective texts, String.toList_injective rests⟩

/-! ### Lines -/

theorem lineBreak_not_mem_append {left right : String} (notInLeft : '\n' ∉ left.toList)
    (notInRight : '\n' ∉ right.toList) : '\n' ∉ (left ++ right).toList := by
  rw [String.toList_append, List.mem_append]
  exact not_or.2 ⟨notInLeft, notInRight⟩

theorem lineBreak_not_mem_hex (number width : Nat) : '\n' ∉ hex number width := by
  have isDigit : ∀ value : Fin 16, '\n' ≠ hexDigit value := by decide
  induction width generalizing number with
  | zero => exact List.not_mem_nil
  | succ width inductionHypothesis =>
      rw [hex, List.mem_append, List.mem_singleton, not_or]
      exact ⟨inductionHypothesis _, isDigit ⟨number % 16, Nat.mod_lt number (by decide)⟩⟩

theorem lineBreak_not_mem_escaped {quote : Char} (isQuote : IsQuote quote) (character : Char) :
    '\n' ∉ escaped quote character := by
  have quoteIs : '\n' ≠ quote := by
    rcases isQuote with rfl | rfl <;> decide
  by_cases isBreak : character = '\n'
  · subst isBreak
    simp [escaped, shortEscape?, quoteIs]
  · rcases escaped_cases isQuote character with ⟨-, -, plain⟩ | ⟨mark, short, means, -⟩ | long
    · rw [plain, List.mem_singleton]
      exact fun same => isBreak same.symm
    · rw [short]
      intro member
      rcases List.mem_cons.1 member with backslash | isMark
      · cases backslash
      · rw [List.mem_singleton] at isMark
        subst isMark
        exact isBreak means.symm
    · rw [long, hexEscape_eq]
      intro member
      rcases List.mem_cons.1 member with backslash | member
      · cases backslash
      · rcases List.mem_cons.1 member with letter | digit
        · have isLetter := hexLetter_mem character.toNat
          rw [← letter] at isLetter
          exact absurd isLetter (by decide)
        · exact lineBreak_not_mem_hex _ _ digit

/-- There is no line break in a quoted text. -/
theorem lineBreak_not_mem_quoted (text : String) : '\n' ∉ (quoted text).toList := by
  have isQuote := isQuote_quoteFor text.toList
  have quoteIs : '\n' ≠ quoteFor text.toList := by
    rcases isQuote with same | same <;> rw [same] <;> decide
  simp only [quoted, String.toList_ofList, quotedCharacters, List.mem_cons, List.mem_append,
    List.mem_flatMap, List.not_mem_nil, or_false, not_or, not_exists, not_and]
  exact ⟨quoteIs, fun character _ => lineBreak_not_mem_escaped isQuote character, quoteIs⟩

end ProtectionLimits.Text

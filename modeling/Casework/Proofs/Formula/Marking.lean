import Casework.Proofs.Formula.Diagnosis
import Casework.Proofs.Text.Lines

namespace Casework

namespace Text

/-- A caret is the only mark of this line. -/
def caretLine (column : Nat) : List Char := List.replicate column ' ' ++ ['^']

/-- The rendered text points at an offset of the source. It shows the line of the offset in its row,
and the line directly below has only a caret in the column of the offset. -/
structure PointsAt (rendered source : List Char) (offset : Nat) : Prop where
  shown : ∃ line, (lines source)[row source offset]? = some line ∧
    (lines rendered)[row source offset]? = some line
  caret : (lines rendered)[row source offset + 1]? = some (caretLine (column source offset))

/-- The source is the line of the offset. Only a carriage return may end it. -/
def IsOneLine (source : List Char) (offset : Nat) : Prop :=
  ∃ line, IsLine line ∧ offset ≤ line.length ∧ (source = line ∨ source = line ++ ['\r'])

/-- The line below the offset is itself a caret in the column of the offset. -/
def HasCaretBelow (source : List Char) (offset : Nat) : Prop :=
  (lines source)[row source offset + 1]? = some (caretLine (column source offset))

variable {source below : List Char} {offset : Nat}

theorem isLine_caretLine (column : Nat) : IsLine (caretLine column) := by
  intro character isMember
  rcases List.mem_append.mp isMember with isSpace | isCaret
  · rw [List.eq_of_mem_replicate isSpace]
    decide
  · rw [List.mem_singleton.mp isCaret]
    decide

/-- A caret tells its column. -/
theorem caretLine_inj {first second : Nat} (same : caretLine first = caretLine second) :
    first = second := by
  simpa [caretLine] using congrArg List.length same

theorem caretLine_ne_nil (column : Nat) : caretLine column ≠ [] := by simp [caretLine]

/-- The caret stands below all closed lines of the source. -/
theorem lines_marked (source below : List Char) (offset : Nat) :
    lines (source ++ '\n' :: (caretLine offset ++ '\n' :: below)) =
      closedLines source ++ caretLine offset :: lines below := by
  rw [lines_append_closed, lines_append_closed, (closedLines_of_isLine (isLine_caretLine offset)).1]
  rfl

/-- Only an empty line may stand behind the closed lines of a text. -/
theorem getElem?_closedLines {index : Nat} {line : List Char}
    (isLine : (lines source)[index]? = some line) :
    (closedLines source)[index]? = some line ∨ index = (closedLines source).length ∧ line = [] := by
  rcases lines_eq_closedLines source with equal | equal
  · exact .inl (equal ▸ isLine)
  · rw [equal, List.getElem?_append] at isLine
    split at isLine
    · exact .inl isLine
    · rw [List.getElem?_singleton] at isLine
      split at isLine
      · cases isLine
        exact .inr ⟨by omega, rfl⟩
      · cases isLine

/-- A closed line is a line with the same number. -/
theorem getElem?_lines_of_closedLines {index : Nat} {line : List Char}
    (isLine : (closedLines source)[index]? = some line) : (lines source)[index]? = some line := by
  rcases lines_eq_closedLines source with equal | equal
  · rw [equal, isLine]
  · rw [equal, List.getElem?_append_left (List.getElem?_eq_some_iff.mp isLine).1, isLine]

/-- No line ends before an offset that stands on the only line. -/
theorem isLine_take_iff {line : List Char} (isLine : IsLine line)
    (isSource : source = line ∨ source = line ++ ['\r']) (within : offset ≤ source.length) :
    IsLine (source.take offset) ↔ offset ≤ line.length := by
  rcases isSource with rfl | rfl
  · exact iff_of_true (fun character isMember => isLine character (List.mem_of_mem_take isMember))
      within
  · constructor
    · intro isFront
      refine Nat.le_of_not_lt fun longer => ?_
      have whole : (line ++ ['\r']).length ≤ offset := by
        rw [List.length_append, List.length_singleton]
        omega
      rw [List.take_of_length_le whole] at isFront
      cases isFront '\r' (by simp)
    · intro inLine character isMember
      rw [List.take_append_of_le_length inLine] at isMember
      exact isLine character (List.mem_of_mem_take isMember)

/-- The mark points at the offset when the source is one line. The only other case is a source with
a caret of its own in the right place. -/
theorem pointsAt_iff (within : offset ≤ source.length) :
    PointsAt (source ++ '\n' :: (caretLine offset ++ '\n' :: below)) source offset ↔
      IsOneLine source offset ∨ HasCaretBelow source offset := by
  constructor
  · rintro ⟨⟨line, isLine, isShown⟩, isCaret⟩
    rw [lines_marked] at isShown isCaret
    rcases Nat.lt_trichotomy (row source offset + 1) (closedLines source).length with
      inside | atEnd | behind
    · rw [List.getElem?_append_left inside] at isCaret
      exact .inr (getElem?_lines_of_closedLines isCaret)
    · -- the caret of the mark counts all characters before the offset, so no line ends there
      rw [atEnd, List.getElem?_append_right (Nat.le_refl _), Nat.sub_self] at isCaret
      have isColumn := caretLine_inj (Option.some.inj isCaret)
      have isFront := (column_eq_iff within).mp isColumn.symm
      rw [row_of_isLine isFront] at atEnd
      obtain ⟨line, isLine, isSource⟩ := exists_isLine_of_closedLines atEnd.symm
      exact .inl ⟨line, isLine, (isLine_take_iff isLine isSource within).mp isFront, isSource⟩
    · rcases getElem?_closedLines isLine with isClosed | ⟨isBehind, rfl⟩
      · have inside := (List.getElem?_eq_some_iff.mp isClosed).1
        omega
      · rw [isBehind, List.getElem?_append_right (Nat.le_refl _), Nat.sub_self] at isShown
        exact absurd (Option.some.inj isShown) (caretLine_ne_nil offset)
  · rintro (⟨line, isLine, inLine, isSource⟩ | hasCaret)
    · have isFront := (isLine_take_iff isLine isSource within).mpr inLine
      have isClosed : closedLines source = [line] := by
        rcases isSource with rfl | rfl
        · exact (closedLines_of_isLine isLine).1
        · exact (closedLines_of_isLine isLine).2
      have isColumn := (column_eq_iff within).mpr isFront
      constructor
      · rw [lines_marked, row_of_isLine isFront, isClosed]
        exact ⟨line, getElem?_lines_of_closedLines (by rw [isClosed]; rfl), rfl⟩
      · rw [lines_marked, row_of_isLine isFront, isClosed, isColumn]
        rfl
    · rcases getElem?_closedLines hasCaret with isClosed | ⟨-, isEmpty⟩
      · have inside := (List.getElem?_eq_some_iff.mp isClosed).1
        have before := Nat.lt_of_succ_lt inside
        have isShown := List.getElem?_eq_getElem before
        constructor
        · rw [lines_marked, List.getElem?_append_left before]
          exact ⟨_, getElem?_lines_of_closedLines isShown, isShown⟩
        · rw [lines_marked, List.getElem?_append_left inside]
          exact isClosed
      · exact absurd isEmpty (caretLine_ne_nil _)

end Text

namespace SyntaxError

open Text

/-- The caret of a mark is as far from the left as its place, when that stands in the source. -/
theorem toList_mark {source message : String} {position : Nat} (within : position ≤ source.length) :
    (mark source message position).toList =
      source.toList ++ '\n' :: (caretLine position ++ '\n' :: message.toList) := by
  have indent : (min (position : Int) source.length).toNat = position := by omega
  unfold mark
  rw [indent]
  simp [caretLine]

/-- Errors stand in their text or at its end. -/
theorem position_le_length {source : String} {error : SyntaxError}
    (refused : Expression.parse source = .error error) : error.position ≤ source.length := by
  rcases Except.bind_eq_error_iff.mp refused with unscanned | ⟨tokens, scanned, _⟩
  · obtain ⟨_, _, _, segments, _⟩ := (Token.unrecognised_of_scan unscanned).2
    exact segments.bounds.1
  · obtain ⟨word, finish, rfl, ends, atEnd, inside, isRead⟩ :=
      Expression.exists_word_of_scan scanned
    rw [isRead] at refused
    obtain ⟨before, token, after, split, position, _⟩ :=
      Expression.located_readAll ends (fun token isMember => (inside token isMember).2) refused
    have isMember : token ∈ word ++ [finish] := by
      rw [split]
      simp
    rw [position]
    rcases List.mem_append.mp isMember with inWord | isFinish
    · exact Nat.le_of_lt (inside token inWord).1
    · rw [List.mem_singleton.mp isFinish, atEnd]

/-- An error is marked with its whole source, a caret that counts all characters before its place,
and its message. The caret points at the place exactly when the source is a single line, or when the
next line of the source is a caret in the right column itself. -/
theorem marked_pointsAt_iff (source : String) (error : SyntaxError)
    (refused : Expression.parse source = .error error) :
    (error.marked source).toList =
        source.toList ++ '\n' :: (caretLine error.position ++ '\n' :: error.message.toList) ∧
      (PointsAt (error.marked source).toList source.toList error.position ↔
        IsOneLine source.toList error.position ∨ HasCaretBelow source.toList error.position) := by
  have within := position_le_length refused
  have rendered : (error.marked source).toList =
      source.toList ++ '\n' :: (caretLine error.position ++ '\n' :: error.message.toList) :=
    toList_mark within
  refine ⟨rendered, ?_⟩
  rw [rendered]
  exact pointsAt_iff within

/-- A tab is one column of a line. -/
theorem marked_pointsAt_tab :
    let source := "\twidth - * 2\r"
    let error : SyntaxError := ⟨.expectedOperand ⟨.star, "*", 9⟩, 9⟩
    Expression.parse source = .error error ∧
      PointsAt (error.marked source).toList source.toList error.position := by
  intro source error
  have refused : Expression.parse source = .error error := by decide +kernel
  refine ⟨refused, (marked_pointsAt_iff source error refused).2.mpr (.inl ?_)⟩
  exact ⟨"\twidth - * 2".toList, by decide +kernel, by decide +kernel, .inr (by decide +kernel)⟩

/-- The caret stands too far to the right when a line ends before the place, and too low when one
ends behind it. -/
theorem exists_marked_astray :
    (∃ error, Expression.parse "width\n- * 2" = .error error ∧ error.position = 8 ∧
      ¬ PointsAt (error.marked "width\n- * 2").toList "width\n- * 2".toList error.position) ∧
    ∃ error, Expression.parse "* 2\n+ 1" = .error error ∧ error.position = 0 ∧
      ¬ PointsAt (error.marked "* 2\n+ 1").toList "* 2\n+ 1".toList error.position := by
  refine ⟨⟨⟨.expectedOperand ⟨.star, "*", 8⟩, 8⟩, by decide +kernel, rfl, fun points => ?_⟩,
    ⟨⟨.expectedOperand ⟨.star, "*", 0⟩, 0⟩, by decide +kernel, rfl, fun points => ?_⟩⟩
  · exact absurd points.caret (by decide +kernel)
  · exact absurd points.caret (by decide +kernel)

end SyntaxError

end Casework

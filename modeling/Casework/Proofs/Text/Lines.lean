/-
This file cuts texts into lines and says at which row and column an offset stands. Texts are joined
by a line feed line by line, only that a carriage return before it belongs to the same line end.
-/

import Casework.Text.LineEnd
import Mathlib.Data.List.DropRight

namespace Casework.Text

/-- A text is cut at its line ends. -/
def lines (text : List Char) : List (List Char) := (unifyLineEnds text).splitOn '\n'

/-- So many lines stand above the line of the offset. -/
def row (text : List Char) (offset : Nat) : Nat := (lines (text.take offset)).length - 1

/-- So many characters of its line stand before the offset. -/
def column (text : List Char) (offset : Nat) : Nat :=
  ((text.take offset).rtakeWhile fun character => !isLineEnd character).length

/-- No line ends inside the text. -/
def IsLine (text : List Char) : Prop := ∀ character ∈ text, isLineEnd character = false

instance (text : List Char) : Decidable (IsLine text) := List.decidableBAll _ text

/-- These are the lines of a text that a line feed follows. A carriage return at the end of the text
joins the line feed. -/
def closedLines (text : List Char) : List (List Char) :=
  if text.getLast? = some '\r' then lines text.dropLast else lines text

variable {text first second line : List Char}

/-- A line does not end with a carriage return. -/
theorem IsLine.getLast_ne (isLine : IsLine line) : line.getLast? ≠ some '\r' := by
  intro isLast
  have isEnd := isLine _ (List.mem_of_getLast? isLast)
  contradiction

/-- Line ends are unified piece by piece when no pair of the two characters is torn apart. -/
theorem unifyLineEnds_append (whole : first.getLast? = some '\r' → second.head? ≠ some '\n') :
    unifyLineEnds (first ++ second) =
      unifyLineEnds first ++ unifyLineEnds second := by
  induction first using unifyLineEnds.induct with
  | case1 rest inductionHypothesis =>
      have restWhole : rest.getLast? = some '\r' → second.head? ≠ some '\n' := fun isLast =>
        whole (by simp [List.getLast?_cons, isLast])
      simp [inductionHypothesis restWhole]
  | case2 rest single inductionHypothesis =>
      have restWhole : rest.getLast? = some '\r' → second.head? ≠ some '\n' := fun isLast =>
        whole (by simp [List.getLast?_cons, isLast])
      have isSingle : rest.head? ≠ some '\n' := fun isFeed => by
        obtain ⟨others, rfl⟩ := List.head?_eq_some_iff.mp isFeed
        exact single others rfl
      have stillSingle : (rest ++ second).head? ≠ some '\n' := by
        cases rest with
        | nil => exact whole rfl
        | cons next rest => exact isSingle
      rw [List.cons_append, unifyLineEnds_return stillSingle, unifyLineEnds_return isSingle,
        inductionHypothesis restWhole, List.cons_append]
  | case3 character rest noPair noReturn inductionHypothesis =>
      have restWhole : rest.getLast? = some '\r' → second.head? ≠ some '\n' := fun isLast =>
        whole (by simp [List.getLast?_cons, isLast])
      rw [List.cons_append, unifyLineEnds_cons noReturn, unifyLineEnds_cons noReturn,
        inductionHypothesis restWhole, List.cons_append]
  | case4 => rfl

/-- A line feed closes a line. -/
theorem lines_append_lineFeed (noReturn : first.getLast? ≠ some '\r') :
    lines (first ++ '\n' :: second) = lines first ++ lines second := by
  rw [lines, unifyLineEnds_append fun isReturn => absurd isReturn noReturn,
    unifyLineEnds_cons (by decide)]
  exact List.splitOnP_append_cons _ _ (by decide)

/-- A carriage return and a line feed close one line together. -/
theorem lines_append_pair (first second : List Char) :
    lines (first ++ '\r' :: '\n' :: second) = lines first ++ lines second := by
  rw [lines, unifyLineEnds_append (by simp), unifyLineEnds_pair]
  exact List.splitOnP_append_cons _ _ (by decide)

/-- A carriage return closes a line by itself when no line feed follows. -/
theorem lines_append_return (noFeed : second.head? ≠ some '\n') :
    lines (first ++ '\r' :: second) = lines first ++ lines second := by
  rw [lines, unifyLineEnds_append (by simp), unifyLineEnds_return noFeed]
  exact List.splitOnP_append_cons _ _ (by decide)

/-- A line feed closes the last line of the text before it. -/
theorem lines_append_closed (first second : List Char) :
    lines (first ++ '\n' :: second) = closedLines first ++ lines second := by
  unfold closedLines
  split
  · next isReturn =>
      obtain ⟨rest, rfl⟩ := List.getLast?_eq_some_iff.mp isReturn
      rw [List.dropLast_concat, List.append_assoc]
      exact lines_append_pair rest second
  · next noReturn => exact lines_append_lineFeed noReturn

/-- A text has its closed lines, and an empty one when the last line is closed. -/
theorem lines_eq_closedLines (text : List Char) :
    lines text = closedLines text ∨ lines text = closedLines text ++ [[]] := by
  unfold closedLines
  split
  · next isReturn =>
      obtain ⟨rest, rfl⟩ := List.getLast?_eq_some_iff.mp isReturn
      rw [List.dropLast_concat]
      exact .inr (lines_append_return (by simp))
  · exact .inl rfl

/-- Every text has a line. -/
theorem length_lines_pos (text : List Char) : 0 < (lines text).length :=
  List.length_pos_iff.mpr fun isNil => List.splitOn_ne_nil _ _ isNil

/-- Every text has a closed line. -/
theorem length_closedLines_pos (text : List Char) : 0 < (closedLines text).length := by
  unfold closedLines
  split <;> exact length_lines_pos _

/-- Without line ends there is nothing to unify. -/
theorem unifyLineEnds_of_isLine (isLine : IsLine line) : unifyLineEnds line = line := by
  induction line using unifyLineEnds.induct with
  | case1 => cases isLine '\r' (by simp)
  | case2 => cases isLine '\r' (by simp)
  | case3 character rest noPair noReturn inductionHypothesis =>
      rw [unifyLineEnds_cons noReturn,
        inductionHypothesis fun other isMember => isLine other (List.mem_cons_of_mem _ isMember)]
  | case4 => rfl

/-- A line is the only line of its text. -/
theorem lines_of_isLine (isLine : IsLine line) : lines line = [line] := by
  rw [lines, unifyLineEnds_of_isLine isLine]
  exact List.splitOn_eq_singleton fun isMember => by cases isLine _ isMember

/-- Every line end of a text closes a line. -/
theorem one_lt_length_lines {character : Char} (isMember : character ∈ text)
    (isEnd : isLineEnd character = true) : 1 < (lines text).length := by
  obtain ⟨before, after, rfl⟩ := List.append_of_mem isMember
  have positive := length_lines_pos before
  rw [isLineEnd, Bool.or_eq_true, beq_iff_eq, beq_iff_eq] at isEnd
  rcases isEnd with rfl | rfl
  · have closedPositive := length_closedLines_pos before
    have afterPositive := length_lines_pos after
    rw [lines_append_closed, List.length_append]
    omega
  · by_cases isPair : after.head? = some '\n'
    · obtain ⟨rest, rfl⟩ := List.head?_eq_some_iff.mp isPair
      have restPositive := length_lines_pos rest
      rw [lines_append_pair, List.length_append]
      omega
    · have afterPositive := length_lines_pos after
      rw [lines_append_return isPair, List.length_append]
      omega

/-- A text with one line has no line end. -/
theorem isLine_of_length_lines (single : (lines text).length = 1) : IsLine text := by
  intro character isMember
  refine eq_false_of_ne_true fun isEnd => ?_
  have several := one_lt_length_lines isMember isEnd
  omega

/-- A single closed line is all of the text, only that a carriage return may follow it. -/
theorem exists_isLine_of_closedLines (single : (closedLines text).length = 1) :
    ∃ line, IsLine line ∧ (text = line ∨ text = line ++ ['\r']) := by
  unfold closedLines at single
  split at single
  · next isReturn =>
      obtain ⟨rest, rfl⟩ := List.getLast?_eq_some_iff.mp isReturn
      rw [List.dropLast_concat] at single
      exact ⟨rest, isLine_of_length_lines single, .inr rfl⟩
  · exact ⟨text, isLine_of_length_lines single, .inl rfl⟩

/-- A carriage return behind a line belongs to its end. -/
theorem closedLines_of_isLine (isLine : IsLine line) :
    closedLines line = [line] ∧ closedLines (line ++ ['\r']) = [line] := by
  constructor
  · rw [closedLines, if_neg isLine.getLast_ne, lines_of_isLine isLine]
  · rw [closedLines, if_pos (List.getLast?_concat ..), List.dropLast_concat, lines_of_isLine isLine]

/-- An offset without line ends before it is in the first row. -/
theorem row_of_isLine {offset : Nat} (isLine : IsLine (text.take offset)) :
    row text offset = 0 := by
  rw [row, lines_of_isLine isLine, List.length_singleton]

/-- The offset is its own column exactly when no line ends before it. -/
theorem column_eq_iff {offset : Nat} (within : offset ≤ text.length) :
    column text offset = offset ↔ IsLine (text.take offset) := by
  have length : (text.take offset).length = offset := List.length_take_of_le within
  have whole : column text offset = offset ↔
      (text.take offset).rtakeWhile (fun character => !isLineEnd character) =
        text.take offset := by
    refine ⟨fun isColumn => ?_, fun isWhole => (congrArg List.length isWhole).trans length⟩
    exact (List.rtakeWhile_suffix _ _).eq_of_length (isColumn.trans length.symm)
  rw [whole, List.rtakeWhile_eq_self_iff]
  simp [IsLine]

example : row "a\r\nbc\rd".toList 4 = 1 ∧ column "a\r\nbc\rd".toList 4 = 1 := by decide +kernel

end Casework.Text

import TerminalKernel.Screen

/-!
# What printing and erasing come to

Every byte moves the cursor forward, to the next cell or to the next row, and at the end of a row
these are the same place. Behind the cursor a screen is blank: whatever is printed or erased, no
cell at or after the cursor is left with anything on it (`BlankTail.print`, `BlankTail.erase`).
-/

namespace TerminalKernel

namespace Position

theorem val_eq (p : Position) : p.val = p.row * screenWidth + p.column :=
  (Nat.div_add_mod' p.val screenWidth).symm

theorem row_eq {p : Position} {row column : Nat} (cell : p.val = row * screenWidth + column)
    (inside : column < screenWidth) : p.row = row := by
  simp only [Position.row, screenWidth] at *
  omega

theorem column_eq {p : Position} {row column : Nat} (cell : p.val = row * screenWidth + column)
    (inside : column < screenWidth) : p.column = column := by
  simp only [Position.column, screenWidth] at *
  omega

/-- A cell is known by its row and its column. -/
theorem eq_of_row_column {p q : Position} (row : p.row = q.row) (column : p.column = q.column) :
    p = q := by
  apply Fin.ext
  rw [p.val_eq, q.val_eq, row, column]

end Position

namespace Screen

variable {s : Screen} {b : UInt8} {next : Nat}

/-! ## One byte -/

/-- The bytes that end a row instead of filling a cell: newline and carriage return. -/
def IsLineEnd (b : UInt8) : Prop := b = 0x0A ∨ b = 0x0D

instance (b : UInt8) : Decidable (IsLineEnd b) := inferInstanceAs (Decidable (_ ∨ _))

/-- Put something on the cell under the cursor. -/
def fill (s : Screen) (cell : Cell) : Screen := { s with surface := s.surface.set s.cursor cell }

theorem putByte_of_lineEnd (lineEnd : IsLineEnd b) : s.putByte b = s.newline := if_pos lineEnd

theorem putByte_of_text (text : ¬ IsLineEnd b) :
    s.putByte b = (s.fill (.text b)).moveTo (s.cursor.val + 1) := if_neg text

theorem moveTo_of_lt (inside : next < screenCells) :
    s.moveTo next = ⟨s.surface, ⟨next, inside⟩⟩ := dif_pos inside

theorem moveTo_of_le (below : screenCells ≤ next) :
    s.moveTo next = ⟨s.surface.scrollUp, .lastRow⟩ := dif_neg (Nat.not_lt.mpr below)

theorem newline_of_lt (above : s.cursor.row + 1 < screenHeight) :
    s.newline.surface = s.surface ∧ s.newline.cursor.row = s.cursor.row + 1 ∧
      s.newline.cursor.column = 0 := by
  have inside : (s.cursor.row + 1) * screenWidth < screenCells := by
    simp only [screenHeight, screenWidth, screenCells] at *
    omega
  have cell : (s.cursor.row + 1) * screenWidth = (s.cursor.row + 1) * screenWidth + 0 := rfl
  rw [newline, moveTo_of_lt inside]
  exact ⟨rfl, Position.row_eq cell (by decide), Position.column_eq cell (by decide)⟩

theorem newline_of_last (last : s.cursor.row + 1 = screenHeight) :
    s.newline = ⟨s.surface.scrollUp, .lastRow⟩ := by
  rw [newline, last]
  exact moveTo_of_le (by decide)

theorem putByte_of_full (text : ¬ IsLineEnd b) (full : s.cursor.column + 1 = screenWidth) :
    s.putByte b = (s.fill (.text b)).newline := by
  have next : s.cursor.val + 1 = (s.cursor.row + 1) * screenWidth := by
    have cell := s.cursor.val_eq
    simp only [screenWidth] at *
    omega
  rw [putByte_of_text text, next]
  rfl

theorem putByte_of_room (text : ¬ IsLineEnd b) (room : s.cursor.column + 1 < screenWidth) :
    (s.putByte b).surface = s.surface.set s.cursor (.text b) ∧
      (s.putByte b).cursor.row = s.cursor.row ∧
      (s.putByte b).cursor.column = s.cursor.column + 1 := by
  have cell : s.cursor.val + 1 = s.cursor.row * screenWidth + (s.cursor.column + 1) := by
    rw [s.cursor.val_eq, Nat.add_assoc]
  have inside : s.cursor.val + 1 < screenCells := by
    have row := s.cursor.row_lt
    simp only [screenHeight, screenWidth, screenCells] at *
    omega
  rw [putByte_of_text text, moveTo_of_lt inside]
  exact ⟨rfl, Position.row_eq cell room, Position.column_eq cell room⟩

/-! ## Behind the cursor -/

/-- Nothing is on the cursor's cell or on any cell after it. -/
def BlankTail (s : Screen) : Prop := ∀ p, s.cursor ≤ p → s.surface.get p = .blank

theorem blankTail_blank : blank.BlankTail := fun p _ => Surface.get_blank p

/-- Moving forward over cells that were filled meanwhile. -/
theorem blankTail_moveTo (blank : ∀ p : Position, next ≤ p.val → s.surface.get p = .blank) :
    (s.moveTo next).BlankTail := by
  intro p after
  by_cases inside : next < screenCells
  · rw [moveTo_of_lt inside] at after ⊢
    exact blank p after
  · rw [moveTo_of_le (Nat.not_lt.mp inside)] at after ⊢
    have low : Position.lastRow.val ≤ p.val := after
    rw [Surface.get_scrollUp, dif_neg]
    simp only [Position.lastRow, screenWidth, screenCells] at *
    omega

namespace BlankTail

theorem newline (tail : s.BlankTail) : s.newline.BlankTail := by
  apply blankTail_moveTo
  intro p after
  apply tail p
  have cell := s.cursor.val_eq
  have column := s.cursor.column_lt
  simp only [Fin.le_def, screenWidth] at *
  omega

theorem putByte (tail : s.BlankTail) (b : UInt8) : (s.putByte b).BlankTail := by
  by_cases lineEnd : IsLineEnd b
  · rw [putByte_of_lineEnd lineEnd]
    exact tail.newline
  · rw [putByte_of_text lineEnd]
    apply blankTail_moveTo
    intro p after
    have other : s.cursor ≠ p := by
      rintro rfl
      omega
    simp only [fill, Surface.get_set, if_neg other]
    exact tail p (Nat.le_of_succ_le after)

theorem print (tail : s.BlankTail) (bytes : List UInt8) : (s.print bytes).BlankTail := by
  induction bytes generalizing s with
  | nil => exact tail
  | cons b rest ih => exact ih (tail.putByte b)

/-- The cell that erasing steps back to is blanked. -/
theorem erase (tail : s.BlankTail) : s.erase.BlankTail := by
  unfold Screen.erase
  split
  · exact tail
  · intro p after
    simp only [Surface.get_set]
    split
    · rfl
    · rename_i other
      apply tail p
      simp only [Fin.le_def, Fin.ext_iff] at *
      omega

end BlankTail

end Screen

end TerminalKernel

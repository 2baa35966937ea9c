import TerminalKernel.Limits

/-!
# Text surfaces

A text screen of 25 rows of 80 cells, kept in row-major order. A position counts cells from the top
left corner, so that row and column are its quotient and remainder by the width. The display and
the pages of hidden terminals are surfaces alike.
Core Lean only.
-/

namespace TerminalKernel

abbrev screenHeight : Nat := 25
abbrev screenWidth : Nat := 80

/-- Cells of a surface, `screenHeight * screenWidth`. -/
abbrev screenCells : Nat := 2000

/-! ## Cells -/

/-- A character and its colours: background in the high half of the second byte, foreground in the
low one. -/
structure Cell where
  char : UInt8
  colours : UInt8
  deriving DecidableEq, Repr

namespace Cell

/-- Light green on black, in which terminals print. -/
def textColours : UInt8 := 0x0A

/-- The colour byte of a foreground and a background, each below sixteen. -/
def coloursOf (foreground background : UInt8) : UInt8 := background <<< 4 ||| foreground

def text (char : UInt8) : Cell := ⟨char, textColours⟩

def blank : Cell := text 0x20

instance : Inhabited Cell := ⟨blank⟩

end Cell

/-! ## Positions -/

/-- A cell of a surface, counted row by row from the top left corner. -/
abbrev Position := Fin screenCells

namespace Position

def home : Position := 0

def row (p : Position) : Nat := p.val / screenWidth

def column (p : Position) : Nat := p.val % screenWidth

/-- The first cell of the last row. -/
def lastRow : Position := ⟨1920, by decide⟩

theorem row_lt (p : Position) : p.row < screenHeight := by
  have h : p.val < 2000 := p.isLt
  simp only [row, screenWidth, screenHeight]
  omega

theorem column_lt (p : Position) : p.column < screenWidth :=
  Nat.mod_lt _ (by decide)

end Position

/-! ## Surfaces -/

structure Surface where
  cells : Vector Cell screenCells
  deriving DecidableEq, Repr

namespace Surface

def blank : Surface := ⟨Vector.replicate screenCells .blank⟩

instance : Inhabited Surface := ⟨blank⟩

def get (s : Surface) (p : Position) : Cell := s.cells[p]

def set (s : Surface) (p : Position) (cell : Cell) : Surface := ⟨s.cells.set p cell⟩

def clearRow (s : Surface) (row : Nat) : Surface :=
  ⟨s.cells.mapFinIdx fun i cell _ => if i / screenWidth = row then .blank else cell⟩

/-- Move every row up by one, losing the first and blanking the last. -/
def scrollUp (s : Surface) : Surface :=
  ⟨(s.cells.drop screenWidth ++ Vector.replicate screenWidth Cell.blank).cast (by decide)⟩

/-- The byte at an offset of the surface seen as memory: two bytes a cell, character first. -/
def byteAt (s : Surface) (offset : Nat) : UInt8 :=
  let cell := s.cells[offset / 2]?.getD .blank
  if offset % 2 = 0 then cell.char else cell.colours

/-- Store a byte at an offset of the surface seen as memory. -/
def setByte (s : Surface) (offset : Nat) (byte : UInt8) : Surface :=
  let cell := s.cells[offset / 2]?.getD .blank
  ⟨s.cells.setIfInBounds (offset / 2)
    (if offset % 2 = 0 then { cell with char := byte } else { cell with colours := byte })⟩

/-- The characters of a surface, row by row. -/
def rows (s : Surface) : List (List UInt8) :=
  (List.range screenHeight).map fun row =>
    (List.range screenWidth).map fun column =>
      (s.cells[row * screenWidth + column]?.getD .blank).char

/-- The characters of a surface as text, one line for each row. -/
def text (s : Surface) : String :=
  String.join (s.rows.map fun row => String.ofList (row.map fun b => Char.ofNat b.toNat) ++ "\n")

/-! ## Cells after an update -/

@[ext] theorem ext_get {s s' : Surface} (h : ∀ p, s.get p = s'.get p) : s = s' := by
  obtain ⟨cells⟩ := s
  obtain ⟨cells'⟩ := s'
  congr 1
  exact Vector.ext fun i hi => h ⟨i, hi⟩

@[simp] theorem get_blank (p : Position) : blank.get p = .blank := by
  simp [get, blank]

theorem get_set (s : Surface) (p q : Position) (cell : Cell) :
    (s.set p cell).get q = if p = q then cell else s.get q := by
  simp [get, set, Vector.getElem_set, Fin.ext_iff]

theorem get_scrollUp (s : Surface) (p : Position) :
    s.scrollUp.get p =
      if h : p.val + screenWidth < screenCells then s.get ⟨p.val + screenWidth, h⟩ else .blank := by
  simp only [get, scrollUp, Fin.getElem_fin, Vector.getElem_cast]
  by_cases h : p.val + screenWidth < screenCells
  · have left : p.val < screenCells - screenWidth := Nat.lt_sub_of_add_lt h
    simp only [h, ↓reduceDIte]
    rw [Vector.getElem_append_left left, Vector.drop_eq_cast_extract, Vector.getElem_cast,
      Vector.getElem_extract]
    simp only [Nat.add_comm]
  · have right : screenCells - screenWidth ≤ p.val := by omega
    simp only [h, ↓reduceDIte]
    rw [Vector.getElem_append_right _ right, Vector.getElem_replicate]

end Surface

end TerminalKernel

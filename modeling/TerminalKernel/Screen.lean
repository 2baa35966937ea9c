import TerminalKernel.Surface

/-!
# Printing on a screen

A screen is a surface and a cursor. Printing fills cells one by one, a newline or a carriage return
goes to the start of the next row, and a cursor that would leave the last row scrolls the surface
instead. Since a position counts cells row by row, moving past the end of a row and starting the
next one are the same step.
Core Lean only.
-/

namespace TerminalKernel

structure Screen where
  surface : Surface
  cursor : Position
  deriving DecidableEq, Repr

namespace Screen

def blank : Screen := ⟨.blank, .home⟩

instance : Inhabited Screen := ⟨blank⟩

/-- Put the cursor on the cell numbered `next`, scrolling by a row if that lies below the screen. -/
def moveTo (s : Screen) (next : Nat) : Screen :=
  if h : next < screenCells then { s with cursor := ⟨next, h⟩ }
  else ⟨s.surface.scrollUp, .lastRow⟩

/-- Go to the start of the next row. -/
def newline (s : Screen) : Screen := s.moveTo ((s.cursor.row + 1) * screenWidth)

/-- Print one byte. Every byte but the two line ends fills a cell, whatever it stands for. -/
def putByte (s : Screen) (byte : UInt8) : Screen :=
  if byte = 0x0A ∨ byte = 0x0D then s.newline
  else { s with surface := s.surface.set s.cursor (.text byte) }.moveTo (s.cursor.val + 1)

def print (s : Screen) (bytes : List UInt8) : Screen := bytes.foldl putByte s

/-- Step back by one cell and blank it. The first cell of the screen has no cell before it. -/
def erase (s : Screen) : Screen :=
  if s.cursor.val = 0 then s
  else
    let before : Position := ⟨s.cursor.val - 1, by omega⟩
    ⟨s.surface.set before .blank, before⟩

@[simp] theorem print_nil (s : Screen) : s.print [] = s := rfl

@[simp] theorem print_cons (s : Screen) (b : UInt8) (rest : List UInt8) :
    s.print (b :: rest) = (s.putByte b).print rest := rfl

theorem print_append (s : Screen) (first second : List UInt8) :
    s.print (first ++ second) = (s.print first).print second :=
  List.foldl_append ..

end Screen

end TerminalKernel

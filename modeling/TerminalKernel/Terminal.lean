import TerminalKernel.Bytes
import TerminalKernel.Keyboard.Key
import TerminalKernel.Screen

/-!
# One terminal

A terminal collects a line of input while echoing it on its screen. Enter commits the line; from
then on keys are dropped until a read takes it. Between its turns on the display a terminal keeps
its screen in a page of its own.
Core Lean only.
-/

namespace TerminalKernel

/-! ## Input lines -/

/-- The input line of a terminal. -/
structure InputLine where
  text : List UInt8
  /-- The line ends with its newline and waits for a read. -/
  committed : Bool
  deriving DecidableEq, Repr

namespace InputLine

def empty : InputLine := ⟨[], false⟩

instance : Inhabited InputLine := ⟨empty⟩

/-- Take the committed line: as many of its bytes as the reader has room for. The rest is lost. -/
def take? (l : InputLine) (room : Nat) : Option (List UInt8) :=
  if l.committed then some (l.text.take room) else none

end InputLine

/-! ## Editing -/

/-- A line under edit and the screen that echoes it. -/
structure Editor where
  line : InputLine
  screen : Screen
  deriving DecidableEq, Repr

namespace Editor

/-- Apply one key. The last place of the line is kept for the newline. -/
def press (e : Editor) (key : Key) : Editor :=
  if e.line.committed then e
  else
    match key with
    | .char c =>
      if c.toNat < 128 ∧ e.line.text.length < lineBufferSize - 1 then
        { line := { e.line with text := e.line.text ++ [c.toNat.toUInt8] }
          screen := e.screen.putByte c.toNat.toUInt8 }
      else e
    | .enter =>
      { line := ⟨e.line.text ++ [0x0A], true⟩
        screen := e.screen.putByte 0x0A }
    | .backspace =>
      if e.line.text.isEmpty then e
      else
        { line := { e.line with text := e.line.text.dropLast }
          screen := e.screen.erase }
    | .ctrl c => if c = 'l' then { e with screen := Screen.blank.print e.line.text } else e
    | .altF _ | .unknown => e

end Editor

/-! ## Terminals -/

structure Terminal where
  cursor : Position
  line : InputLine
  /-- The screen as it was when another terminal was last displayed in its place. -/
  page : Surface
  deriving DecidableEq, Repr

namespace Terminal

def blank : Terminal := ⟨.home, .empty, .blank⟩

instance : Inhabited Terminal := ⟨blank⟩

end Terminal

end TerminalKernel

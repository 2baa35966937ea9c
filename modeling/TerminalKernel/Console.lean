import TerminalKernel.Layout
import TerminalKernel.Terminal

/-!
# The console

All terminals and the one display they share. The displayed terminal draws on the display itself,
the others on their pages; `screen` hides the difference, and printing and editing are defined
through it alone. Showing another terminal saves the display to the old one's page and loads the new
one's, which changes no screen (`screen_display`).
Core Lean only.
-/

namespace TerminalKernel

structure Console where
  pages : ScreenPages
  terminals : PerTerminal Terminal
  displayed : TerminalId
  /-- The display's memory. -/
  live : Surface
  /-- Where the hardware cursor was last put. -/
  hardwareCursor : Position

namespace Console

/-- A console whose terminals are blank, whatever their records held before. -/
def new (pages : ScreenPages) (records : PerTerminal Terminal) : Console where
  pages
  terminals := records.map fun _ => .blank
  displayed := .first
  live := .blank
  hardwareCursor := .home

/-! ## Records -/

def terminal (c : Console) (t : TerminalId) : Terminal := c.terminals.get t

def setTerminal (c : Console) (t : TerminalId) (terminal : Terminal) : Console :=
  { c with terminals := c.terminals.set t terminal }

@[simp] theorem terminal_setTerminal_self (c : Console) (t : TerminalId) (r : Terminal) :
    (c.setTerminal t r).terminal t = r := by
  simp [terminal, setTerminal]

theorem terminal_setTerminal (c : Console) (s t : TerminalId) (r : Terminal) :
    (c.setTerminal s r).terminal t = if s = t then r else c.terminal t := by
  simp [terminal, setTerminal, PerTerminal.get_set]

theorem setTerminal_self (c : Console) (t : TerminalId) : c.setTerminal t (c.terminal t) = c :=
  congrArg (fun terminals => { c with terminals }) (c.terminals.set_get t)

@[simp] theorem displayed_setTerminal (c : Console) (t : TerminalId) (r : Terminal) :
    (c.setTerminal t r).displayed = c.displayed := rfl

@[simp] theorem live_setTerminal (c : Console) (t : TerminalId) (r : Terminal) :
    (c.setTerminal t r).live = c.live := rfl

@[simp] theorem hardwareCursor_setTerminal (c : Console) (t : TerminalId) (r : Terminal) :
    (c.setTerminal t r).hardwareCursor = c.hardwareCursor := rfl

/-! ## Screens -/

/-- What a terminal shows, or would show if it were displayed. -/
def screen (c : Console) (t : TerminalId) : Screen :=
  ⟨if t = c.displayed then c.live else (c.terminal t).page, (c.terminal t).cursor⟩

def setScreen (c : Console) (t : TerminalId) (s : Screen) : Console :=
  if t = c.displayed then { c.setTerminal t { c.terminal t with cursor := s.cursor } with
    live := s.surface }
  else c.setTerminal t { c.terminal t with cursor := s.cursor, page := s.surface }

/-- Put the hardware cursor where the displayed terminal's cursor is. -/
def followCursor (c : Console) : Console :=
  { c with hardwareCursor := (c.terminal c.displayed).cursor }

@[simp] theorem screen_setScreen_self (c : Console) (t : TerminalId) (s : Screen) :
    (c.setScreen t s).screen t = s := by
  by_cases h : t = c.displayed
  · subst h; simp [screen, setScreen, terminal, setTerminal]
  · simp [screen, setScreen, h]

theorem screen_setScreen_of_ne (c : Console) {s t : TerminalId} (h : s ≠ t) (x : Screen) :
    (c.setScreen s x).screen t = c.screen t := by
  unfold setScreen
  split
  · rename_i hs
    have ht : t ≠ c.displayed := fun e => h (hs.trans e.symm)
    simp [screen, ht, terminal, setTerminal, PerTerminal.get_set, h]
  · simp [screen, terminal_setTerminal, h]

theorem terminal_setScreen_of_ne (c : Console) {s t : TerminalId} (h : s ≠ t) (x : Screen) :
    (c.setScreen s x).terminal t = c.terminal t := by
  unfold setScreen
  split
  · exact (c.terminal_setTerminal s t _).trans (if_neg h)
  · exact (c.terminal_setTerminal s t _).trans (if_neg h)

/-! ## Output -/

/-- Print bytes on a terminal up to the first NUL. -/
def write (c : Console) (t : TerminalId) (bytes : List UInt8) : Console :=
  let c' := c.setScreen t ((c.screen t).print (Bytes.untilNul bytes))
  if t = c.displayed then c'.followCursor else c'

/-! ## Input -/

/-- What a key asks for beyond the console. -/
inductive KeyAction
  | handled
  | switchTo (t : TerminalId)
  deriving DecidableEq, Repr

/-- The displayed terminal's line and screen, ready for editing. -/
def editor (c : Console) : Editor := ⟨(c.terminal c.displayed).line, c.screen c.displayed⟩

/-- Store an edited line and its screen at the displayed terminal. -/
def setEditor (c : Console) (e : Editor) : Console :=
  let c' := c.setScreen c.displayed e.screen
  (c'.setTerminal c.displayed { c'.terminal c.displayed with line := e.line }).followCursor

/-- Give a key to the displayed terminal. Alt with a terminal's function key asks for that terminal;
with another function key it does nothing. -/
def receiveKey (c : Console) : Key → Console × KeyAction
  | .altF number =>
    if h : 1 ≤ number ∧ number ≤ terminalCount then
      (c, .switchTo ⟨number - 1, by omega⟩)
    else (c, .handled)
  | key => (c.setEditor (c.editor.press key), .handled)

/-- Take the committed line of a terminal into a buffer with the given room. -/
def takeLine? (c : Console) (t : TerminalId) (room : Nat) : Option (Console × List UInt8) :=
  (c.terminal t).line.take? room |>.map fun bytes =>
    (c.setTerminal t { c.terminal t with line := .empty }, bytes)

/-! ## The display -/

def save (c : Console) (t : TerminalId) : Console :=
  c.setTerminal t { c.terminal t with page := c.live }

/-- Copy a terminal's page to the display and put the hardware cursor where it belongs. -/
def load (c : Console) (t : TerminalId) : Console :=
  { c with live := (c.terminal t).page, hardwareCursor := (c.terminal t).cursor }

def display (c : Console) (t : TerminalId) : Console :=
  if t = c.displayed then c
  else { (c.save c.displayed).load t with displayed := t }

/-- The page that the video window must show for a terminal; none for the displayed one, whose
screen is the display. -/
def videoPage (c : Console) (t : TerminalId) : Option Nat :=
  if t = c.displayed then none else some (c.pages.page t)

/-- The page that a terminal's screen lies in: the display's memory or the terminal's own page. -/
def screenAddress (c : Console) (t : TerminalId) : Nat :=
  if t = c.displayed then vgaTextMemory else c.pages.page t

/-- A terminal's screen lies below the slots. -/
theorem screenAddress_le (c : Console) (t : TerminalId) :
    c.screenAddress t + pageSize ≤ programSlotBase := by
  have page := c.pages.page_le t
  have display := c.pages.le_page t
  unfold screenAddress
  split
  · omega
  · exact page

theorem getD_videoPage (c : Console) (t : TerminalId) :
    (c.videoPage t).getD vgaTextMemory = c.screenAddress t := by
  unfold videoPage screenAddress
  split <;> rfl

/-! ## Screens while the display changes -/

theorem terminal_save (c : Console) (t u : TerminalId) :
    (c.save t).terminal u = if t = u then { c.terminal u with page := c.live } else c.terminal u := by
  rw [save, terminal_setTerminal]
  split
  · rename_i h
    rw [h]
  · rfl

theorem terminal_display (c : Console) (t u : TerminalId) :
    (c.display t).terminal u =
      if t ≠ c.displayed ∧ c.displayed = u then { c.terminal u with page := c.live }
      else c.terminal u := by
  unfold display
  split
  · rename_i h
    simp [h]
  · rename_i h
    simp only [ne_eq, h, not_false_eq_true, true_and]
    exact c.terminal_save c.displayed u

/-- Choosing the terminal to display changes no screen. -/
@[simp] theorem screen_display (c : Console) (t u : TerminalId) :
    (c.display t).screen u = c.screen u := by
  by_cases h : t = c.displayed
  · simp [display, h]
  · have shown : (c.display t).displayed = t := by simp [display, h]
    have live : (c.display t).live = (c.terminal t).page := by
      simp [display, h, load, terminal_save, Ne.symm h]
    by_cases hu : u = t
    · subst hu
      simp [screen, shown, live, terminal_display, h, Ne.symm h]
    · by_cases hd : u = c.displayed
      · subst hd
        simp [screen, shown, hu, terminal_display, h]
      · simp [screen, shown, hu, terminal_display, hd, Ne.symm hd]

end Console

end TerminalKernel

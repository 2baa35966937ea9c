import Mathlib.Logic.Relation
import TerminalKernel.Proofs.Holdings
import TerminalKernel.Proofs.Updates

/-!
# What actions do to the console

Only a key adds to a line of input, and only a read takes one away. All other actions draw, choose
the terminal to display or store bytes on a screen (`act_console`). They leave the lines alone, and
the hardware cursor stays where the displayed terminal's cursor is.
-/

namespace TerminalKernel

namespace Console

/-! ## Drawing -/

/-- Replace what a terminal shows. The hardware cursor follows if it is displayed. -/
def draw (c : Console) (t : TerminalId) (s : Screen) : Console :=
  if t = c.displayed then (c.setScreen t s).followCursor else c.setScreen t s

/-- One change of what is shown. -/
inductive Redraw (c : Console) : Console → Prop
  | draw (t : TerminalId) (s : Screen) : Redraw c (c.draw t s)
  | display (t : TerminalId) : Redraw c (c.display t)
  /-- Bytes are stored on the display. -/
  | live (s : Surface) : Redraw c { c with live := s }
  /-- Bytes are stored on a terminal's page. -/
  | page (t : TerminalId) (s : Surface) :
      Redraw c (c.setTerminal t { c.terminal t with page := s })

abbrev Redraws : Console → Console → Prop := Relation.ReflTransGen Redraw

/-- Empty the line of a terminal. -/
def clearLine (c : Console) (t : TerminalId) : Console :=
  c.setTerminal t { c.terminal t with line := .empty }

theorem write_eq_draw (c : Console) (t : TerminalId) (bytes : List UInt8) :
    c.write t bytes = c.draw t ((c.screen t).print (Bytes.untilNul bytes)) := by
  simp only [write, draw]

theorem setTerminal_setTerminal (c : Console) (t : TerminalId) (r r' : Terminal) :
    (c.setTerminal t r).setTerminal t r' = c.setTerminal t r' := by
  refine congrArg (fun terminals => { c with terminals }) (PerTerminal.ext_get fun u => ?_)
  simp only [setTerminal, PerTerminal.get_set]
  split <;> rfl

theorem setScreen_screen (c : Console) (t : TerminalId) : c.setScreen t (c.screen t) = c := by
  unfold setScreen screen
  split
  · exact congrArg (fun terminals => { c with terminals }) (c.terminals.set_get t)
  · exact c.setTerminal_self t

theorem setScreen_setScreen (c : Console) (t : TerminalId) (s s' : Screen) :
    (c.setScreen t s).setScreen t s' = c.setScreen t s' := by
  have displayed := c.displayed_setScreen t s
  unfold setScreen at *
  rw [displayed]
  split
  · have twice := c.setTerminal_setTerminal t { c.terminal t with cursor := s.cursor }
      { c.terminal t with cursor := s'.cursor }
    have cursor : ((c.setTerminal t { c.terminal t with cursor := s.cursor }).terminal t) = _ :=
      c.terminal_setTerminal_self t _
    rw [← twice]
    change { (c.setTerminal t _).setTerminal t
      { (c.setTerminal t _).terminal t with cursor := s'.cursor } with live := s'.surface } = _
    rw [cursor]
  · rw [terminal_setTerminal_self, setTerminal_setTerminal]

/-! ## What drawing keeps -/

/-- The hardware cursor is where the displayed terminal's cursor is. -/
def CursorFollows (c : Console) : Prop := c.hardwareCursor = (c.terminal c.displayed).cursor

variable {c c' : Console}

theorem line_draw (c : Console) (t u : TerminalId) (s : Screen) :
    ((c.draw t s).terminal u).line = (c.terminal u).line := by
  have drawn : ((c.setScreen t s).terminal u).line = (c.terminal u).line := by
    have editor := congrArg Editor.line (c.editorOf_setScreen t u s)
    rw [apply_ite Editor.line, ite_self] at editor
    exact editor
  unfold draw
  split
  · exact drawn
  · exact drawn

theorem line_redraw (redraw : Redraw c c') (u : TerminalId) :
    (c'.terminal u).line = (c.terminal u).line := by
  cases redraw with
  | draw t s => exact c.line_draw t u s
  | display t => exact congrArg Editor.line (c.editorOf_display t u)
  | live s => rfl
  | page t s =>
    rw [terminal_setTerminal]
    split
    · rename_i same
      rw [same]
    · rfl

theorem line_redraws (redraws : Redraws c c') (u : TerminalId) :
    (c'.terminal u).line = (c.terminal u).line := by
  induction redraws with
  | refl => rfl
  | tail _ redraw ih => exact (line_redraw redraw u).trans ih

theorem CursorFollows.draw (follows : c.CursorFollows) (t : TerminalId) (s : Screen) :
    (c.draw t s).CursorFollows := by
  unfold Console.draw
  split
  · exact rfl
  · rename_i hidden
    have kept : (c.setScreen t s).terminal c.displayed = c.terminal c.displayed :=
      c.terminal_setScreen_of_ne hidden s
    have cursor : (c.setScreen t s).hardwareCursor = c.hardwareCursor := by
      rw [setScreen, if_neg hidden, hardwareCursor_setTerminal]
    rw [CursorFollows, displayed_setScreen, kept, cursor]
    exact follows

theorem CursorFollows.display (follows : c.CursorFollows) (t : TerminalId) :
    (c.display t).CursorFollows := by
  unfold Console.display
  split
  · exact follows
  · exact rfl

theorem CursorFollows.setTerminal (follows : c.CursorFollows) (t : TerminalId) {r : Terminal}
    (same : r.cursor = (c.terminal t).cursor) : (c.setTerminal t r).CursorFollows := by
  rw [CursorFollows, hardwareCursor_setTerminal, displayed_setTerminal, terminal_setTerminal]
  split
  · rename_i here
    rw [same, here]
    exact follows
  · exact follows

theorem CursorFollows.redraws (follows : c.CursorFollows) (redraws : Redraws c c') :
    c'.CursorFollows := by
  induction redraws with
  | refl => exact follows
  | tail _ redraw ih =>
    cases redraw with
    | draw t s => exact ih.draw t s
    | display t => exact ih.display t
    | live s => exact ih
    | page t s => exact ih.setTerminal t rfl

/-- Another terminal is displayed and then the former one again: nothing looks different. -/
theorem CursorFollows.display_back (follows : c.CursorFollows) (t : TerminalId) :
    ((c.display t).display c.displayed).displayed = c.displayed ∧
      (∀ u, ((c.display t).display c.displayed).editorOf u = c.editorOf u) ∧
      ((c.display t).display c.displayed).hardwareCursor = c.hardwareCursor := by
  have displayed := (c.display t).displayed_display c.displayed
  have editors : ∀ u, ((c.display t).display c.displayed).editorOf u = c.editorOf u := fun u =>
    ((c.display t).editorOf_display c.displayed u).trans (c.editorOf_display t u)
  have cursor := congrArg (·.screen.cursor) (editors c.displayed)
  refine ⟨displayed, editors, ?_⟩
  calc ((c.display t).display c.displayed).hardwareCursor
      = (((c.display t).display c.displayed).terminal
          ((c.display t).display c.displayed).displayed).cursor :=
        (follows.display t).display c.displayed
    _ = (c.terminal c.displayed).cursor := by rw [displayed]; exact cursor
    _ = c.hardwareCursor := follows.symm

theorem CursorFollows.receiveKey (follows : c.CursorFollows) (key : Key) :
    (c.receiveKey key).1.CursorFollows := by
  unfold Console.receiveKey
  split
  · split
    · exact follows
    · exact follows
  · exact rfl

end Console

/-! ## Steps of the console -/

/-- The action gives input to a terminal or asks for some. -/
def Action.isInput : Action → Bool
  | .key _ | .read _ _ => true
  | _ => false

namespace Kernel

/-- What an action can do to the console. -/
inductive ConsoleStep (k : Kernel) : Action → Console → Prop
  | redraw {a : Action} {c : Console} (quiet : a.isInput = false)
      (redraws : k.console.Redraws c) : ConsoleStep k a c
  | pressed (key : Key) : ConsoleStep k (.key key) (k.console.receiveKey key).1
  /-- A terminal is selected with a key. -/
  | selected {number : Nat} {c : Console} (redraws : k.console.Redraws c) :
      ConsoleStep k (.key (.altF number)) c
  | took {pid : ProcessId} {p : ProcessRecord TerminalId} {fd room : Nat} {d : Descriptor}
      (running : k.current = .ok (pid, p)) (bound : p.descriptor? fd = some d)
      (input : d.binding = .terminalIn)
      (ready : (k.console.terminal p.terminal).line.committed = true) :
      ConsoleStep k (.read fd (some room)) (k.console.clearLine p.terminal)
  /-- Something else is read, or no line is ready. -/
  | unread {fd : Nat} {room : Option Nat}
      (nothing : ∀ pid p d, k.current = .ok (pid, p) → p.descriptor? fd = some d →
        d.binding = .terminalIn → room.isSome →
        (k.console.terminal p.terminal).line.committed = false) :
      ConsoleStep k (.read fd room) k.console

variable {k k' : Kernel} {pid : ProcessId} {p : ProcessRecord TerminalId} {t : TerminalId}

/-! ## What draws -/

theorem console_print (k : Kernel) (t : TerminalId) (bytes : List UInt8) :
    (k.print t bytes).console = k.console.write t bytes := by
  unfold print
  split <;> rfl

theorem redraws_print (k : Kernel) (t : TerminalId) (bytes : List UInt8) :
    k.console.Redraws (k.print t bytes).console := by
  rw [console_print, Console.write_eq_draw]
  exact .single (.draw t _)

theorem redraws_display (k : Kernel) (t : TerminalId) :
    k.console.Redraws (k.display t).console := by
  unfold display
  split
  · exact .refl
  · exact .single (.display t)

/-- Text that is fetched while it is printed replaces the screen all the same. -/
theorem console_printUser (k : Kernel) (t : TerminalId) (address count : Nat) :
    ∃ s, (k.printUser t address count).console = k.console.setScreen t s := by
  induction count generalizing k address with
  | zero => exact ⟨_, (k.console.setScreen_screen t).symm⟩
  | succ count ih =>
    unfold printUser
    dsimp only
    generalize (k.console.screen t).putByte (k.userByte address) = first
    obtain ⟨s, drawn⟩ := ih { k with console := k.console.setScreen t first } (address + 1)
    exact ⟨s, drawn.trans (k.console.setScreen_setScreen t first s)⟩

theorem console_programClock (k : Kernel) (hz : Nat) :
    (k.programClock hz).console = k.console := by
  unfold programClock
  split <;> rfl

theorem redraws_write (k : Kernel) (fd : Nat) (buffer : Option (List UInt8)) :
    k.console.Redraws (k.write fd buffer).1.console := by
  unfold write
  split
  · exact .refl
  · exact .refl
  · split
    · exact k.redraws_print _ _
    · unfold writeClock
      split
      · exact .refl
      · rw [console_programClock]
    all_goals exact .refl

theorem redraws_writeScreen (k : Kernel) (fd address length : Nat) :
    k.console.Redraws (k.writeScreen fd address length).1.console := by
  unfold writeScreen
  dsimp only
  split
  · rename_i pid p d found
    split
    · obtain ⟨s, drawn⟩ := k.console_printUser p.terminal address
        (Bytes.untilNul (k.userBytes address length)).length
      have displayed := congrArg Console.displayed drawn
      rw [Console.displayed_setScreen] at displayed
      have whole : k.console.Redraws (k.console.draw p.terminal s) := .single (.draw _ _)
      rw [displayed]
      split
      · rename_i shown
        rw [Console.draw, if_pos shown, ← drawn] at whole
        exact whole
      · rename_i hidden
        rw [Console.draw, if_neg hidden, ← drawn] at whole
        exact whole
    · exact k.redraws_write _ _
  · exact k.redraws_write _ _

/-! ## Memory -/

theorem redraws_setPhysicalByte (k : Kernel) (address : Nat) (byte : UInt8) :
    k.console.Redraws (k.setPhysicalByte address byte).console := by
  unfold setPhysicalByte
  split
  · exact .single (.live _)
  · split
    · exact .single (.page _ _)
    · exact .refl

theorem redraws_storeBytes (k : Kernel) (address : Nat) (bytes : List UInt8) :
    k.console.Redraws (k.storeBytes address bytes).console := by
  induction bytes generalizing k address with
  | nil => exact .refl
  | cons b rest ih =>
    unfold storeBytes
    split
    · exact (k.redraws_setPhysicalByte _ b).trans (ih _ _)
    · exact ih k (address + 1)

theorem redraws_storeBlock (k : Kernel) (address : Nat) (bytes : List UInt8) :
    k.console.Redraws (k.storeBlock address bytes).console := by
  unfold storeBlock
  split
  · exact .refl
  · split <;> exact .refl

theorem redraws_storeUser (k : Kernel) (address : Nat) (bytes : List UInt8) :
    k.console.Redraws (k.storeUser address bytes).console := by
  unfold storeUser
  exact ((redraws_storeBlock _ _ _).trans (redraws_storeBytes _ _ _)).trans (redraws_storeBlock _ _ _)

/-! ## Starting and ending -/

theorem console_load (k : Kernel) (t : TerminalId) (file : ProgramFile) (args : List UInt8)
    (save : Option TerminalId) : (k.load t file args save).1.console = k.console := by
  rcases k.load_cases t file args save with
    ⟨_, failed⟩ | ⟨pid, _, _, _, failed⟩ | ⟨pid, _, _, started⟩
  · rw [failed]
  · rw [failed]
    exact k.console_withProgram file pid
  · rw [started]
    dsimp only
    rw [console_log, console_begin, console_withProgram]

theorem redraws_spawn (k : Kernel) (t : TerminalId) (name args : List UInt8)
    (save : Option TerminalId) : k.console.Redraws (k.spawn t name args save).1.console := by
  unfold spawn
  split
  · exact .refl
  · split
    · exact k.redraws_print t _
    · rw [console_load]

theorem redraws_halt (k : Kernel) (status : UInt8) :
    k.console.Redraws (k.halt status).1.console := by
  unfold halt
  split
  · exact .refl
  · rename_i pid p _
    have ended : (((k.reportUnclosable pid p).finish pid p.terminal).log
        (.exited pid status)).console = k.console := rfl
    generalize ((k.reportUnclosable pid p).finish pid p.terminal).log (.exited pid status) = k' at ended ⊢
    dsimp only
    rw [← ended]
    split
    · have started := k'.redraws_spawn p.terminal shellName [] none
      unfold relaunch
      generalize k'.spawn p.terminal shellName [] none = spawned at started ⊢
      obtain ⟨k'', cause | launch⟩ := spawned <;> exact started
    · exact .refl

theorem redraws_execute (k : Kernel) (line : List UInt8) :
    k.console.Redraws (k.execute line).1.console := by
  unfold execute
  dsimp only
  split
  · exact k.redraws_halt 0
  · exact k.redraws_spawn k.scheduled _ _ none

/-! ## Descriptors and windows -/

theorem console_openFile (k : Kernel) (name : List UInt8) :
    (k.openFile name).1.console = k.console := by
  have opened : ∀ (k : Kernel) b, (k.openDevice b).console = k.console := by
    intro k b
    cases b with
    | rtc => exact console_programClock _ _
    | terminalIn | terminalOut | directory | regular | closed => rfl
  rcases k.openFile_cases name with ⟨_, failed⟩ | ⟨_, _, _, _, _, _, _, bound⟩
  · rw [failed]
  · rw [bound]
    exact opened _ _

theorem console_closeFile (k : Kernel) (fd : Nat) : (k.closeFile fd).1.console = k.console := by
  rcases k.closeFile_cases fd with ⟨_, failed⟩ | ⟨_, _, _, _, _, _, _, closed⟩
  · rw [failed]
  · rw [closed]
    rfl

theorem console_mapVideo (k : Kernel) (address : Nat) :
    (k.mapVideo address).1.console = k.console := by
  rcases k.mapVideo_cases address with ⟨_, failed⟩ | ⟨_, _, _, mapped⟩
  · rw [failed]
  · rw [mapped]
    rfl

theorem console_tick (k : Kernel) : k.tick.1.console = k.console := by
  rcases k.tick_cases with same | ⟨_, noted⟩ | ⟨_, _, _, _, _, _, turned⟩
  · rw [same]
  · rw [noted]
    rfl
  · rw [turned]
    rfl

/-! ## Keys and reads -/

def line (k : Kernel) (t : TerminalId) : InputLine := (k.console.terminal t).line

theorem readLine_of_committed (ready : (k.line t).committed = true) (room : Nat) :
    k.readLine t room =
      ({ k with console := k.console.clearLine t }, .done ((k.line t).text.take room)) := by
  unfold line at *
  simp only [readLine, Console.takeLine?, InputLine.take?, ready, ↓reduceIte, Option.map_some,
    Console.clearLine]

theorem readLine_of_editing (editing : (k.line t).committed = false) (room : Nat) :
    k.readLine t room = (k, .fail .wouldBlock) := by
  unfold line at editing
  simp only [readLine, Console.takeLine?, InputLine.take?, editing, Bool.false_eq_true, ↓reduceIte,
    Option.map_none]

theorem redraws_displayFresh (k : Kernel) (t : TerminalId) :
    k.console.Redraws (k.displayFresh t).1.console := by
  have shown := (k.redraws_display t).trans
    ((k.display t).redraws_spawn t shellName [] (some k.scheduled))
  unfold displayFresh
  generalize (k.display t).spawn t shellName [] (some k.scheduled) = spawned at shown ⊢
  obtain ⟨k', cause | launch⟩ := spawned
  · exact shown.trans ((k'.log (.shellNotStarted t cause)).redraws_display _)
  · exact shown

theorem redraws_switchTerminal (k : Kernel) (t : TerminalId) :
    k.console.Redraws (k.switchTerminal t).1.console := by
  unfold switchTerminal
  split
  · exact .refl
  · split
    · exact k.redraws_display t
    · split
      · exact k.redraws_print _ _
      · exact k.redraws_displayFresh t

theorem console_receiveKey (k : Kernel) (key : Key) :
    (k.receiveKey key).1.console = (k.console.receiveKey key).1 := by
  unfold receiveKey
  dsimp only
  split <;> rfl

theorem handleKey_console (k : Kernel) (key : Key) :
    k.ConsoleStep (.key key) (k.handleKey key).1.console := by
  rcases k.handleKey_cases key with taken | ⟨⟨number, rfl⟩, t, selected⟩
  · rw [taken, console_receiveKey]
    exact .pressed key
  · rw [selected]
    exact .selected (k.redraws_switchTerminal t)

/-- A read takes a line if it asks for input and one is ready. -/
theorem read_console (k : Kernel) (fd : Nat) (room : Option Nat) :
    k.ConsoleStep (.read fd room) (k.read fd room).1.console := by
  unfold read
  split
  · rename_i cause none
    refine .unread fun pid p d running bound => ?_
    simp only [currentDescriptor, running, bound] at none
    cases none
  · refine .unread fun _ _ _ _ _ _ given => ?_
    cases given
  · rename_i pid p d room found
    obtain ⟨running, bound⟩ := currentDescriptor_eq_ok found
    have other (file : d.binding ≠ .terminalIn) : k.ConsoleStep (.read fd (some room)) k.console := by
      refine .unread fun q p' d' running' bound' input => ?_
      cases running.symm.trans running'
      cases bound.symm.trans bound'
      exact absurd input file
    split
    · rename_i input
      cases ready : (k.line p.terminal).committed with
      | true =>
        rw [readLine_of_committed ready]
        exact .took running bound input ready
      | false =>
        rw [readLine_of_editing ready]
        refine .unread fun q p' d' running' bound' _ _ => ?_
        cases running.symm.trans running'
        exact ready
    · rename_i clock
      exact other (by rw [clock]; simp)
    · rename_i directory
      have same : (k.readDirectory pid fd d room).1.console = k.console := by
        rcases k.readDirectory_cases pid fd d room with ⟨_, none⟩ | ⟨_, _, read⟩
        · rw [none]
        · rw [read]
          rfl
      rw [same]
      exact other (by rw [directory]; simp)
    · rename_i regular
      have same : (k.readRegular pid fd d room).1.console = k.console := by
        rcases k.readRegular_cases pid fd d room with ⟨_, failed⟩ | ⟨_, read⟩
        · rw [failed]
        · rw [read]
          rfl
      rw [same]
      exact other (by rw [regular]; simp)
    · rename_i output
      exact other (by rw [output]; simp)
    · rename_i closed
      exact other (by rw [closed]; simp)

/-! ## All actions -/

/-- What every action does to the console. -/
theorem act_console (k : Kernel) (a : Action) : k.ConsoleStep a (k.act a).1.console := by
  cases a with
  | start =>
    refine .redraw rfl ?_
    rw [act, fst_ofCall]
    exact k.redraws_spawn .first shellName [] (some .first)
  | execute line =>
    refine .redraw rfl ?_
    rw [act, fst_ofCall]
    exact k.redraws_execute line
  | halt status =>
    refine .redraw rfl ?_
    rw [act, fst_ofCall]
    exact k.redraws_halt status
  | openFile name => exact .redraw rfl (by rw [act, console_openFile])
  | closeFile fd => exact .redraw rfl (by rw [act, console_closeFile])
  | read fd room => exact k.read_console fd room
  | write fd buffer => exact .redraw rfl (k.redraws_write fd buffer)
  | mapVideo address => exact .redraw rfl (by rw [act, console_mapVideo])
  | writeScreen fd address length => exact .redraw rfl (k.redraws_writeScreen fd address length)
  | store address bytes => exact .redraw rfl (k.redraws_storeUser address bytes)
  | tick => exact .redraw rfl (by rw [act, console_tick])
  | switchTerminal t => exact .redraw rfl (k.redraws_switchTerminal t)
  | key key => exact k.handleKey_console key
  | getArgs _ | clockTick | emit _ => exact .redraw rfl .refl

variable {a : Action} {c : Console}

theorem ConsoleStep.cursorFollows (step : k.ConsoleStep a c) (follows : k.console.CursorFollows) :
    c.CursorFollows := by
  cases step with
  | redraw _ redraws => exact follows.redraws redraws
  | pressed key => exact follows.receiveKey key
  | selected redraws => exact follows.redraws redraws
  | took _ _ _ _ => exact follows.setTerminal _ rfl
  | unread _ => exact follows

end Kernel

/-! ## Over a run -/

namespace Run

theorem console_eq {k₀ k : Kernel} {h : List Moment} {m : Moment} (run : Run k₀ (m :: h) k) :
    k.console = m.decided.console := by
  cases run with
  | step _ a _ saved _ _ => exact (Moment.mk _ a saved).console_after

theorem console_latest {k₀ k : Kernel} {h : List Moment} {m : Moment} (run : Run k₀ (m :: h) k) :
    m.before.ConsoleStep m.action k.console := by
  rw [run.console_eq]
  exact m.before.act_console m.action

/-- The hardware cursor is always where the displayed terminal's cursor is. -/
theorem cursorFollows {files : FileSystem} {arena : Arena} {storage : Kernel.Storage}
    {h : List Moment} {k : Kernel} (run : Run (.new files arena storage) h k) :
    k.console.CursorFollows := by
  induction h generalizing k with
  | nil =>
    cases run with
    | new _ _ =>
      simp [Console.CursorFollows, Kernel.withStackPointer, Kernel.new, Console.new,
        Console.terminal, Terminal.blank]
  | cons m h ih => exact run.console_latest.cursorFollows (ih run.latest.1)

end Run

end TerminalKernel

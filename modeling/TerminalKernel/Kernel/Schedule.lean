import TerminalKernel.Kernel.Lifecycle

/-!
# Taking turns

Each timer tick hands the processor to the next active terminal. Choosing a terminal at the keyboard
only changes the display, unless the terminal never ran: then a shell is started on it and takes the
processor.
Core Lean only.
-/

namespace TerminalKernel.Kernel

/-- Give the processor to the owner of a terminal and the video window to its screen. -/
def schedule (k : Kernel) (t : TerminalId) (owner : ProcessId) : Kernel :=
  let k := (k.enter owner).mapScreen t
  { k with scheduled := t }

/-- A tick of the timer. -/
def tick (k : Kernel) : Kernel × Transfer :=
  match k.nextActive? k.scheduled with
  | none => (k, .stay)
  | some next =>
    if next = k.scheduled then (k, .stay)
    else
      match (k.session next).owner with
      | none => (k, .stay)
      | some owner =>
        if (k.session next).context.isEmpty then (k.log (.notParked next k.scheduled), .stay)
        else (k.schedule next owner, .switch k.scheduled next)

/-- Display a terminal that is in use. The scheduled process may see its screen through the video
window, which has to follow the screen to its new place. -/
def displayActive (k : Kernel) (t : TerminalId) : Kernel :=
  let k := k.display t
  (k.mapScreen k.scheduled).log (.displaying t)

/-- Display a terminal that never ran and start a shell on it. If that fails, the former terminal is
displayed again. -/
def displayFresh (k : Kernel) (t : TerminalId) : Kernel × Transfer :=
  let former := k.console.displayed
  match (k.display t).spawn t shellName [] (some k.scheduled) with
  | (k, .ok launch) =>
    ({ k with scheduled := t, space := k.space.mapVideo none }.log (.shellStarted t),
      .launch launch)
  | (k, .error cause) => ((k.log (.shellNotStarted t cause)).display former, .stay)

/-- Display a terminal. -/
def switchTerminal (k : Kernel) (t : TerminalId) : Kernel × Transfer :=
  if t = k.console.displayed then (k, .stay)
  else if (k.session t).active then (k.displayActive t, .stay)
  else if maxProcesses ≤ k.processes.liveCount then
    ((k.print k.console.displayed processLimitMessage).log (.noProcessLeft t), .stay)
  else k.displayFresh t

/-- Give a key to the console. Keys that select a terminal leave the hardware cursor alone. -/
def receiveKey (k : Kernel) (key : Key) : Kernel × Console.KeyAction :=
  match k.console.receiveKey key with
  | (console, action) =>
    let k := { k with console }
    match key with
    | .altF _ => (k, action)
    | _ => (k.moveCursor, action)

/-- Give a key to the displayed terminal. -/
def handleKey (k : Kernel) (key : Key) : Kernel × Transfer :=
  match k.receiveKey key with
  | (k, .handled) => (k, .stay)
  | (k, .switchTo t) => k.switchTerminal t

end TerminalKernel.Kernel

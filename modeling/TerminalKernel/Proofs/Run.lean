import TerminalKernel.Computer.Syscall

/-!
# Runs of the kernel

A run begins by starting the first shell and goes on with any actions in any order: system calls,
turns of the timer and the clock, keys, and what programs do to their own memory. Before every
action the stack pointer may move within the kernel stack in use, and after it a flow may be saved
where the transfer says. The history of a run lists its moments, the latest one first.
-/

namespace TerminalKernel

/-- What can be asked of the kernel. -/
inductive Action
  /-- Start the first shell. -/
  | start
  | execute (line : List UInt8)
  | halt (status : UInt8)
  | openFile (name : List UInt8)
  | closeFile (fd : Nat)
  | read (fd : Nat) (room : Option Nat)
  | write (fd : Nat) (buffer : Option (List UInt8))
  | getArgs (room : Option Nat)
  | mapVideo (address : Nat)
  /-- Write a buffer that lies on a screen. -/
  | writeScreen (fd address length : Nat)
  /-- The running program stores bytes at a user address. -/
  | store (address : Nat) (bytes : List UInt8)
  | tick
  | switchTerminal (t : TerminalId)
  | key (key : Key)
  | clockTick
  /-- Something leaves the machine. -/
  | emit (effects : List Effect)
  deriving DecidableEq, Repr

/-- The status with which an action ends the running process, if it asks for its end. -/
def Action.exitStatus? : Action → Option UInt8
  | .halt status => some status
  | .execute line => if (Command.parse line).name = Command.exitName then some 0 else none
  | _ => none

namespace Kernel

/-! ## Actions -/

/-- A call with the transfer it decides on. A call that fails returns to its caller. -/
def ofCall : Kernel × Except SyscallError Transfer → Kernel × Transfer
  | (k, .ok transfer) => (k, transfer)
  | (k, .error _) => (k, .stay)

def start (k : Kernel) : Kernel × Except SyscallError Transfer :=
  let (k, result) := k.spawn .first shellName [] (some .first)
  (k, result.map .launch)

def act (k : Kernel) : Action → Kernel × Transfer
  | .start => ofCall k.start
  | .execute line => ofCall (k.execute line)
  | .halt status => ofCall (k.halt status)
  | .openFile name => ((k.openFile name).1, .stay)
  | .closeFile fd => ((k.closeFile fd).1, .stay)
  | .read fd room => ((k.read fd room).1, .stay)
  | .write fd buffer => ((k.write fd buffer).1, .stay)
  | .getArgs _ => (k, .stay)
  | .mapVideo address => ((k.mapVideo address).1, .stay)
  | .writeScreen fd address length => ((k.writeScreen fd address length).1, .stay)
  | .store address bytes => (k.storeUser address bytes, .stay)
  | .tick => k.tick
  | .switchTerminal t => k.switchTerminal t
  | .key key => k.handleKey key
  | .clockTick => ({ k with rtc := k.rtc.tick }, .stay)
  | .emit effects => (k.emit effects, .stay)

/-! ## The stack pointer -/

/-- The kernel with its stack pointer at an address, or as deep in the kernel stack as it
was. -/
def withStackPointer (k : Kernel) (address : Option Nat) : Kernel :=
  { k with stackPointerOverride := address }

/-- The stack pointer lies in the kernel stack that was selected last, or outside the arena if none
was. -/
def OnStack (k : Kernel) : Prop :=
  match k.kernelStack with
  | none => k.stackPointer < k.processes.arena.bottom ∨ k.processes.arena.top ≤ k.stackPointer
  | some top => top ≤ k.stackPointer + stackSlotSize ∧ k.stackPointer < top

/-- A flow is saved in the record of a process or of a terminal. -/
theorem park_eq (k : Kernel) (transfer : Transfer) (context : SavedContext) :
    ∃ processes sessions, k.park transfer context = { k with processes, sessions } := by
  unfold park
  split
  · rename_i slot _
    cases slot <;> exact ⟨_, _, rfl⟩
  · exact ⟨_, _, rfl⟩

end Kernel

/-- The transfer starts the process. -/
def Transfer.Launches (transfer : Transfer) (pid : ProcessId) : Prop :=
  ∃ l, transfer = .launch l ∧ l.pid = pid

theorem Transfer.not_launches {transfer : Transfer} (other : ∀ l, transfer ≠ .launch l)
    (pid : ProcessId) : ¬ transfer.Launches pid := by
  rintro ⟨l, launch, _⟩
  exact other l launch

/-! ## Moments -/

/-- One action of a run. -/
structure Moment where
  /-- The kernel when it is asked to act, its stack pointer in place. -/
  before : Kernel
  action : Action
  /-- The flow that is saved where the transfer says. -/
  saved : Option SavedContext

namespace Moment

variable (m : Moment)

/-- The kernel when the transfer is decided. -/
def decided : Kernel := (m.before.act m.action).1

def transfer : Transfer := (m.before.act m.action).2

/-- The kernel when the flow is saved. -/
def after : Kernel :=
  match m.saved with
  | some context => m.decided.park m.transfer context
  | none => m.decided

theorem after_eq : ∃ processes sessions, m.after = { m.decided with processes, sessions } := by
  unfold after
  split
  · exact Kernel.park_eq _ _ _
  · exact ⟨_, _, rfl⟩

theorem console_after : m.after.console = m.decided.console := by
  obtain ⟨_, _, same⟩ := m.after_eq
  rw [same]

/-- Where the transfer suspends a flow, one that can be continued is saved. -/
def Saves : Prop :=
  m.transfer.saveSlot?.isSome → ∃ context, m.saved = some context ∧ context.isEmpty = false

abbrev Launches (pid : ProcessId) : Prop := m.transfer.Launches pid

/-- The process lives through the moment: its number is live before and after, and is not given to
a new process meanwhile. -/
structure Keeps (pid : ProcessId) : Prop where
  before : m.before.processes.isLive pid = true
  after : m.after.processes.isLive pid = true
  notLaunched : ¬ m.Launches pid

end Moment

/-! ## Runs -/

/-- The histories that begin with the kernel `k₀`, each with the state it leads to. -/
inductive Run (k₀ : Kernel) : List Moment → Kernel → Prop
  | new (address : Option Nat) (stack : (k₀.withStackPointer address).OnStack) :
      Run k₀ [] (k₀.withStackPointer address)
  | step {h : List Moment} {k : Kernel} (run : Run k₀ h k) (a : Action)
      (first : a = .start ↔ h = []) (saved : Option SavedContext) (address : Option Nat)
      (stack : ((Moment.mk k a saved).after.withStackPointer address).OnStack) :
      Run k₀ (⟨k, a, saved⟩ :: h) ((Moment.mk k a saved).after.withStackPointer address)

/-! ### Playing actions -/

/-- The first action starts the first shell, and no later one does. The latest comes first. -/
def Action.Begins : List Action → Prop
  | [] => True
  | a :: earlier => (a = .start ↔ earlier = []) ∧ Begins earlier

/-- The history of some actions, the latest first, and the state they lead to. One flow stands for
every flow that is saved, and the stack pointer is always as deep in the kernel stack as at first. -/
def Kernel.play (k₀ : Kernel) (flow : SavedContext) : List Action → List Moment × Kernel
  | [] => ([], k₀.withStackPointer none)
  | a :: earlier =>
    let (h, k) := k₀.play flow earlier
    (⟨k, a, some flow⟩ :: h, (Moment.mk k a (some flow)).after.withStackPointer none)

theorem Kernel.play_eq_nil {k₀ : Kernel} {flow : SavedContext} {actions : List Action} :
    (k₀.play flow actions).1 = [] ↔ actions = [] := by
  cases actions with
  | nil => exact iff_of_true rfl rfl
  | cons a earlier => exact iff_of_false (List.cons_ne_nil _ _) (List.cons_ne_nil _ _)

theorem Kernel.saved_of_play (k₀ : Kernel) (flow : SavedContext) (actions : List Action) :
    ∀ m ∈ (k₀.play flow actions).1, m.saved = some flow := by
  induction actions with
  | nil => exact fun m inside => absurd inside List.not_mem_nil
  | cons a earlier ih => exact List.forall_mem_cons.mpr ⟨rfl, ih⟩

namespace Run

variable {k₀ k : Kernel} {h : List Moment}

theorem onStack (run : Run k₀ h k) : k.OnStack := by
  cases run with
  | new _ stack => exact stack
  | step _ _ _ _ _ stack => exact stack

theorem exists_earlier {later earlier : List Moment} (run : Run k₀ (later ++ earlier) k) :
    ∃ k', Run k₀ earlier k' := by
  induction later generalizing k with
  | nil => exact ⟨k, run⟩
  | cons m later ih =>
    rw [List.cons_append] at run
    cases run with
    | step run _ _ _ _ _ => exact ih run

end Run

end TerminalKernel

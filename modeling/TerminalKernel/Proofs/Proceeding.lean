import TerminalKernel.Computer.Event
import TerminalKernel.Proofs.Settled

/-!
# Going on

Calls that return to their caller, stores of a program to its own memory, and flows that go on after
an event: none of them suspends anything, moves the processor to another process or touches the line
of a terminal that does not have the processor (`Computer.Proceeds`).
-/

namespace TerminalKernel

namespace Computer

/-- A computer goes on without suspending a flow or changing who runs. -/
structure Proceeds (c c' : Computer) : Prop where
  suspended : c'.suspended = c.suspended
  decides : c.kernel.Decides .stay c'.kernel
  line : ∀ t, t ≠ c.kernel.scheduled → c'.kernel.line t = c.kernel.line t

variable {c c' c'' : Computer} {k : Kernel} {a : Action} {e : Event} {r : Registers}

namespace Proceeds

theorem settled (proceeds : Proceeds c c') (settled : c.kernel.Settled) : c'.kernel.Settled :=
  settled.stay proceeds.decides

theorem roster_eq (proceeds : Proceeds c c') : c'.kernel.roster = c.kernel.roster :=
  proceeds.decides.roster_eq

theorem scheduled_eq (proceeds : Proceeds c c') : c'.kernel.scheduled = c.kernel.scheduled :=
  congrArg Roster.scheduled proceeds.roster_eq

theorem refl (settled : c.kernel.Settled) : Proceeds c c :=
  ⟨rfl, settled.refl, fun _ _ => rfl⟩

theorem trans (first : Proceeds c c') (second : Proceeds c' c'') : Proceeds c c'' where
  suspended := second.suspended.trans first.suspended
  decides := first.decides.trans second.decides
  line t other := by
    rw [second.line t (first.scheduled_eq ▸ other), first.line t other]

theorem withRunning (proceeds : Proceeds c c') (flow : Flow) :
    Proceeds c { c' with running := flow } :=
  ⟨proceeds.suspended, proceeds.decides, proceeds.line⟩

theorem answerCount (proceeds : Proceeds c c') (r : Registers) (result : Except SyscallError Nat) :
    Proceeds c (c'.answerCount r result) := by
  cases result with
  | ok count => exact proceeds.withRunning _
  | error cause => exact proceeds.withRunning _

/-- An action of the running program that stays. -/
theorem of_act (settled : c.kernel.Settled) (acts : c.kernel.act a = (k, .stay))
    (later : a ≠ .start) (call : ∀ key, a ≠ .key key) : Proceeds c (c.withKernel k) where
  suspended := rfl
  decides := settled.decides acts fun start => absurd start later
  line t other := by
    cases a with
    | key key => exact absurd rfl (call key)
    | read fd room =>
      have kernel : (c.withKernel k).kernel = (c.kernel.act (.read fd room)).1 :=
        (congrArg Prod.fst acts).symm
      rw [kernel]
      exact settled.line_read fd room other
    | start | execute _ | halt _ | openFile _ | closeFile _ | write _ _ | getArgs _ | mapVideo _
    | writeScreen _ _ _ | store _ _ | tick | switchTerminal _ | clockTick | emit _ =>
      exact settled.line_act acts rfl t

theorem emit (settled : c.kernel.Settled) (effects : List Effect) : Proceeds c (c.emit effects) :=
  of_act settled (a := .emit effects) rfl (by simp) (by simp)

theorem atDepth (settled : c.kernel.Settled) (depth : Fin stackSlotSize) :
    Proceeds c (c.atDepth depth) :=
  ⟨rfl, ⟨.stay, settled.tabled, settled.pointer⟩, fun _ _ => rfl⟩

theorem store (settled : c.kernel.Settled) (address : Nat) (bytes : List UInt8) :
    Proceeds c (c.withKernel (c.kernel.storeUser address bytes)) :=
  of_act settled (a := .store address bytes) rfl (by simp) (by simp)

theorem read (settled : c.kernel.Settled) (fd : Nat) (room : Option Nat) :
    Proceeds c (c.withKernel (c.kernel.read fd room).1) :=
  of_act settled (a := .read fd room) rfl (by simp) (by simp)

end Proceeds

/-! ## Flows that go on -/

theorem proceeds_tryRead (settled : c.kernel.Settled) (r : Registers) (fd address room : Nat) :
    Proceeds c (c.tryRead r fd address room) := by
  have read := Proceeds.read settled fd (some room)
  have stored := read.trans (Proceeds.store (read.settled settled) address
    (c.kernel.read fd (some room)).2.bytes)
  unfold tryRead
  dsimp only
  split
  · exact stored.withRunning _
  · exact stored.answerCount r _

theorem proceeds_retry (settled : c.kernel.Settled) : Proceeds c c.retry := by
  unfold retry
  split
  · exact proceeds_tryRead settled _ _ _ _
  · exact .refl settled

theorem proceeds_wake (settled : c.kernel.Settled) (context : SavedContext) (status : UInt8) :
    Proceeds c (c.wake context status) := by
  unfold wake
  split
  · exact (Proceeds.refl settled).withRunning _
  · exact (Proceeds.refl settled).withRunning _
  · exact (Proceeds.refl settled).withRunning _

/-! ## Calls that return to their caller -/

theorem proceeds_callRead (settled : c.kernel.Settled) (r : Registers) (fd address length : Nat) :
    Proceeds c (c.callRead r fd address length) := by
  unfold callRead
  split
  · exact (Proceeds.refl settled).withRunning _
  · exact (Proceeds.read settled fd none).answerCount r _
  · exact proceeds_tryRead settled r fd _ _

theorem proceeds_writeUser (settled : c.kernel.Settled) (fd : Nat) (buffer : UserMemory.Buffer) :
    Proceeds c (c.withKernel (c.kernel.writeUser fd buffer).1) := by
  cases buffer with
  | null => exact .of_act settled (a := .write fd none) rfl (by simp) (by simp)
  | block address length =>
    unfold Kernel.writeUser
    dsimp only
    split
    · exact .of_act settled (a := .write fd (some (c.kernel.userBytes address length))) rfl
        (by simp) (by simp)
    · exact .of_act settled (a := .writeScreen fd address length) rfl (by simp) (by simp)

theorem proceeds_callWrite (settled : c.kernel.Settled) (r : Registers) (fd address length : Nat) :
    Proceeds c (c.callWrite r fd address length) := by
  unfold callWrite
  split
  · exact (Proceeds.refl settled).withRunning _
  · exact (proceeds_writeUser settled fd _).answerCount r _

theorem proceeds_callOpen (settled : c.kernel.Settled) (r : Registers) (address : Nat) :
    Proceeds c (c.callOpen r address) := by
  unfold callOpen
  split
  · exact (Proceeds.refl settled).withRunning _
  · rename_i name _
    have opened : Proceeds c (c.withKernel (c.kernel.openFile name).1) :=
      .of_act settled (a := .openFile name) rfl (by simp) (by simp)
    exact opened.answerCount r _

theorem proceeds_callClose (settled : c.kernel.Settled) (r : Registers) (fd : Nat) :
    Proceeds c (c.callClose r fd) := by
  have closed : Proceeds c (c.withKernel (c.kernel.closeFile fd).1) :=
    .of_act settled (a := .closeFile fd) rfl (by simp) (by simp)
  exact closed.answerCount r _

theorem proceeds_callGetArgs (settled : c.kernel.Settled) (r : Registers) (address length : Nat) :
    Proceeds c (c.callGetArgs r address length) := by
  unfold callGetArgs
  split
  · exact (Proceeds.refl settled).withRunning _
  · exact (Proceeds.refl settled).answerCount r _
  · split
    · exact (Proceeds.refl settled).withRunning _
    · exact (Proceeds.store settled _ _).withRunning _

theorem proceeds_callMapVideo (settled : c.kernel.Settled) (r : Registers) (address : Nat) :
    Proceeds c (c.callMapVideo r address) := by
  have mapped : Proceeds c (c.withKernel (c.kernel.mapVideo address).1) :=
    .of_act settled (a := .mapVideo address) rfl (by simp) (by simp)
  unfold callMapVideo
  generalize c.kernel.mapVideo address = result at mapped ⊢
  obtain ⟨k, cause | window⟩ := result
  · exact mapped.withRunning _
  · dsimp only
    split
    · exact (mapped.trans (Proceeds.store (mapped.settled settled) _ _)).withRunning _
    · exact mapped.withRunning _

/-- A call that ends in no transfer returns to its caller. -/
theorem proceeds_failed (settled : c.kernel.Settled) {cause : SyscallError}
    {result : Kernel × Except SyscallError Transfer} (failed : result = (k, .error cause))
    (acts : c.kernel.act a = Kernel.ofCall result) (later : a ≠ .start)
    (call : ∀ key, a ≠ .key key) : Proceeds c (c.withKernel k) :=
  .of_act settled (acts.trans (by rw [failed]; rfl)) later call

end Computer

end TerminalKernel

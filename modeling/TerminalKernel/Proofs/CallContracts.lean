import TerminalKernel.Proofs.Callers

/-!
# What programs may rely on

Whatever is in the registers, a call of the process that runs keeps to `Computer.Contract`. Memory
that is not mapped for programs is refused before anything happens, and the value of a failure is
returned when, and only when, the call is refused. A call that is not refused yields less: a number
at once, the length of a line that it waits for, or the status of the process that it starts. Of the
slots only the caller's buffer is written, and the image of a program that is loaded.
-/

namespace TerminalKernel

namespace Kernel

variable {k k' : Kernel} {r : Registers} {s : Syscall} {a : Action} {pid q : ProcessId}
  {p : ProcessRecord TerminalId} {offset : Nat}

/-! ## Buffers that are filled -/

/-- What is copied to the caller fits into the buffer that the call names. -/
theorem delivered_cases (request : k.request? r s = some a) :
    k.delivered a = [] ∨ ∃ start length, s.fills? r = some (start, length) ∧
      k.acceptsRange start length = true ∧ (k.delivered a).length ≤ length := by
  cases s with
  | halt | closeFile =>
    cases request
    exact .inl rfl
  | execute | openFile =>
    obtain ⟨_, _, rfl⟩ := Option.map_eq_some_iff.mp request
    exact .inl rfl
  | read =>
    obtain ⟨b, given, rfl⟩ := Option.map_eq_some_iff.mp request
    cases b with
    | null =>
      obtain ⟨cause, refused⟩ := k.read_none r.rdi.toNat
      exact .inl (congrArg (fun result => result.2.bytes) refused)
    | block address length =>
      obtain ⟨rfl, rfl, accepted⟩ := UserMemory.accepts_of_buffer? given
      exact .inr ⟨_, _, rfl, accepted, k.length_read_le _ _⟩
  | write =>
    obtain ⟨b, _, rfl⟩ := Option.map_eq_some_iff.mp request
    rcases k.writing_cases r.rdi.toNat b with ⟨_, same⟩ | ⟨_, _, same⟩
    · exact .inl (by rw [same]; rfl)
    · exact .inl (by rw [same]; rfl)
  | getArgs =>
    obtain ⟨b, given, rfl⟩ := Option.map_eq_some_iff.mp request
    cases b with
    | null => exact .inl rfl
    | block address length =>
      obtain ⟨rfl, rfl, accepted⟩ := UserMemory.accepts_of_buffer? given
      refine .inr ⟨_, _, rfl, accepted, ?_⟩
      unfold delivered
      dsimp only
      split
      · rename_i given
        exact length_getArgs_le given
      · exact Nat.zero_le _
  | mapVideo =>
    cases request
    by_cases inside : programWindow ≤ r.rdi.toNat ∧ r.rdi.toNat + 8 ≤ programWindowEnd
    · refine .inr ⟨_, _, rfl, (UserMemory.accepts_iff _ _ _).mpr (.inl inside), ?_⟩
      unfold delivered
      dsimp only
      split
      · exact Nat.le_of_eq (Bytes.length_ofNat _ _)
      · exact Nat.zero_le _
    · have refused : k.mapVideo r.rdi.toNat = (k, .error .invalidArgument) := if_neg inside
      refine .inl ?_
      rw [delivered, refused]
  | setHandler | signalReturn => cases request

theorem stays_of_returns (call : a.isCall = true) (returns : a.handsOver = false) :
    (k.act a).2 = .stay := by
  cases a with
  | halt _ | execute _ => cases returns
  | start | store _ _ | tick | switchTerminal _ | key _ | clockTick | emit _ => cases call
  | openFile _ | closeFile _ | read _ _ | write _ _ | getArgs _ | mapVideo _ | writeScreen _ _ _ => rfl

/-- A call that returns leaves its caller running, with both windows set. -/
theorem Serves.act (serves : k.Serves pid) (settled : k.Settled) (call : a.isCall = true)
    (returns : a.handsOver = false) : (k.act a).1.Serves pid := by
  have acts : k.act a = ((k.act a).1, .stay) := Prod.ext rfl (stays_of_returns call returns)
  have later : a ≠ .start := by
    rintro rfl
    cases call
  have decides := settled.decides acts fun start => absurd start later
  exact serves.step decides.roster_eq (settled.viewport_act a)

/-- A copy that fits into an accepted buffer touches the caller's slot only, and there only the
buffer. -/
theorem touched_of_copy (serves : k.Serves pid) (settled : k.Settled) (call : a.isCall = true)
    (returns : a.handsOver = false) {start length : Nat}
    (accepted : k.acceptsRange start length = true) (fits : (k.delivered a).length ≤ length)
    (inside : offset < programSlotSize)
    (touched : k.Touched ((k.act a).1.storeUser start (k.delivered a)) q offset) :
    q = pid ∧ start ≤ programWindow + offset ∧ programWindow + offset < start + length := by
  have still := acceptsRange_step (settled.viewport_act a) (acceptsRange_of_le accepted fits)
  rw [touched_iff, ← memory_act (k := k) call returns, ← touched_iff] at touched
  obtain ⟨own, low, high⟩ :=
    touched_of_storeUser (serves.act settled call returns) still inside touched
  exact ⟨own, low, by omega⟩

theorem touched_of_served (serves : k.Serves pid) (settled : k.Settled)
    (request : k.request? r s = some a) (returns : a.handsOver = false)
    (inside : offset < programSlotSize) (touched : k.Touched (k.served r s a) q offset) :
    q = pid ∧ ∃ start length, s.fills? r = some (start, length) ∧
      start ≤ programWindow + offset ∧ programWindow + offset < start + length := by
  have call := isCall_of_request? request
  rcases delivered_cases request with nothing | ⟨start, length, fills, accepted, fits⟩
  · rw [served, nothing, storeUser_nil] at touched
    exact absurd touched (not_touched_of_memory (memory_act call returns))
  · have target : s.target r = start := by
      rw [Syscall.target, fills, Option.map_some, Option.getD_some]
    rw [served, target] at touched
    obtain ⟨own, low, high⟩ :=
      touched_of_copy serves settled call returns accepted fits inside touched
    exact ⟨own, start, length, fills, low, high⟩

/-! ## Reads that wait -/

/-- Only a read of the terminal's line waits, and only for want of a line. -/
theorem editing_of_blocks (tabled : k.Tabled) (running : k.current = .ok (pid, p)) {fd room : Nat}
    (blocks : k.Blocks (.read fd (some room))) :
    fd = 0 ∧ (k.line p.terminal).committed = false := by
  have never (cause : FileError) : some cause.toSyscall ≠ some .wouldBlock := by
    cases cause <;> simp [FileError.toSyscall]
  obtain ⟨_, _, same, waits⟩ := blocks
  cases same
  unfold read currentDescriptor at waits
  rw [running] at waits
  dsimp only at waits
  cases bound : p.descriptor? fd with
  | none =>
    rw [bound] at waits
    cases waits
  | some d =>
    rw [bound] at waits
    dsimp only at waits
    split at waits
    · rename_i input
      refine ⟨(tabled pid _ (holdings_of_current running)).eq_zero_of_terminalIn bound input, ?_⟩
      rw [← Bool.not_eq_true]
      intro committed
      rw [readLine_of_committed committed] at waits
      cases waits
    · cases waits
    · unfold readDirectory at waits
      split at waits
      · cases waits
      · split at waits
        · exact absurd waits (never _)
        · cases waits
    · unfold readRegular at waits
      dsimp only at waits
      split at waits
      · rename_i failed
        rw [Delivery.mapFailure, failed] at waits
        exact absurd waits (never _)
      · cases waits
    · cases waits
    · cases waits

end Kernel

namespace Computer

open Kernel

variable {c c' : Computer} {e : Event} {h : Handover} {k : Kernel} {r : Registers} {s : Syscall}
  {a : Action} {pid q : ProcessId} {p : ProcessRecord TerminalId} {transfer : Transfer}
  {t : TerminalId} {n offset address room : Nat}

/-! ## Values -/

/-- Every program knows a failure by its value: no number that a call returns is as great. -/
theorem most_lt_failed (accepted : ∀ start length, s.names? r = some (start, length) →
    k.acceptsRange start length = true) : s.most r < failed.toNat := by
  have few {start length : Nat} (names : s.names? r = some (start, length)) :
      length < failed.toNat := by
    have inside := (UserMemory.accepts_iff _ _ _).mp (accepted start length names)
    simp only [programWindowEnd, videoWindowEnd] at inside
    have large : failed.toNat = 18446744073709551615 := rfl
    omega
  cases s with
  | read | write => exact few rfl
  | openFile => exact (by decide : maxOpenFiles - 1 < failed.toNat)
  | halt | execute | closeFile | getArgs | mapVideo | setHandler | signalReturn =>
    exact (by decide : 0 < failed.toNat)

theorem ofNat_ne_failed (small : n < failed.toNat) : UInt64.ofNat n ≠ failed := by
  intro same
  have value := congrArg UInt64.toNat same
  rw [UInt64.toNat_ofNat_of_lt' (Nat.lt_trans small failed.toNat_lt)] at value
  exact Nat.ne_of_lt small value

theorem toUInt64_lt_failed (status : UInt8) : status.toUInt64 < failed := by
  rw [UInt64.lt_iff_toNat_lt, UInt8.toNat_toUInt64]
  exact Nat.lt_trans status.toNat_lt (by decide)

/-! ## Programs that end or start -/

/-- When a program ends or starts another, a new program is entered, nothing runs, or a caller that
waits goes on. -/
theorem transfer_cases (attended : c.Attended) (running : c.kernel.current = .ok (pid, p))
    (hands : a.handsOver = true) (succeeds : c.kernel.failure? a = none)
    (acts : c.kernel.act a = (k, transfer)) :
    (∃ l, transfer = .launch l) ∨ transfer = .idle ∨
      ∃ context status caller, transfer = .resume context status ∧
        c.suspended.lookup context.rsp.toNat = some (.calling caller) := by
  have ended {status : UInt8} (exits : a.exitStatus? = some status) :
      (∃ l, transfer = .launch l) ∨ transfer = .idle ∨
        ∃ context status caller, transfer = .resume context status ∧
          c.suspended.lookup context.rsp.toNat = some (.calling caller) := by
    rw [c.kernel.act_of_exitStatus? exits] at acts
    obtain ⟨k₁, _, halted⟩ := halt_eq running status
    rw [halted] at acts
    split at acts
    · cases acts
      rcases k₁.relaunch_spec p.terminal with ⟨l, launches, _⟩ | ⟨idle, _⟩
      · exact .inl ⟨l, launches⟩
      · exact .inr (.inl idle)
    · rename_i others
      cases acts
      have live := (current_eq_ok running).2
      have link : c.kernel.roster.link? pid = some p.link := by
        simp only [roster, live, Option.map_some]
      obtain ⟨caller, awaits⟩ := attended pid p.link link (not_or.mp others).2
      exact .inr (.inr ⟨_, status, caller, rfl, (wake_of_awaits awaits live).2⟩)
  cases a with
  | halt status => exact ended rfl
  | execute line =>
    by_cases isExit : (Command.parse line).name = Command.exitName
    · exact ended (if_pos isExit)
    · obtain ⟨l, launches, _⟩ := launch_of_execute isExit (eq_ok_of_ofCall acts succeeds)
      exact .inl ⟨l, launches⟩
  | start | openFile _ | closeFile _ | read _ _ | write _ _ | getArgs _ | mapVideo _
  | writeScreen _ _ _ | store _ _ | tick | switchTerminal _ | key _ | clockTick | emit _ => cases hands

theorem memory_park (k : Kernel) (transfer : Transfer) (context : SavedContext) :
    (k.park transfer context).memory = k.memory := by
  obtain ⟨_, _, same⟩ := k.park_eq transfer context
  rw [same]

/-- To hand the processor over stores nothing, and no program that goes on sees a failure. -/
theorem performed (attended : c.Attended) (running : c.kernel.current = .ok (pid, p))
    (hands : a.handsOver = true) (succeeds : c.kernel.failure? a = none)
    (acts : c.kernel.act a = (k, transfer)) (stackPointer : Nat) (flow : Flow) :
    ((c.withKernel k).perform stackPointer flow transfer).kernel.memory = k.memory ∧
      ∀ r', ((c.withKernel k).perform stackPointer flow transfer).running = .user r' →
        r'.rax ≠ failed := by
  rcases transfer_cases attended running hands succeeds acts with
    ⟨l, rfl⟩ | rfl | ⟨context, status, caller, rfl, waiting⟩
  · refine ⟨memory_park k _ _, fun r' goesOn => ?_⟩
    cases goesOn
    exact (by decide : (0 : UInt64) ≠ failed)
  · refine ⟨rfl, fun r' goesOn => ?_⟩
    cases goesOn
  · have woken : (c.withKernel k).perform stackPointer flow (.resume context status) =
        (c.withKernel k).answer caller status.toUInt64 := by
      have waiting : (c.withKernel k).suspended.lookup context.rsp.toNat = some (.calling caller) :=
        waiting
      rw [perform, wake, waiting]
    rw [woken]
    refine ⟨rfl, fun r' goesOn => ?_⟩
    cases goesOn
    exact UInt64.ne_of_lt (toUInt64_lt_failed status)

/-! ## Calls that are not refused -/

/-- How much of the line of the terminal that has the processor a read has room for. -/
def fitting (c : Computer) (r : Registers) : Nat :=
  min r.rdx.toNat (c.kernel.line c.kernel.scheduled).text.length

/-- From one computer to the other, process `pid` tried to read what it waits for with the registers
`r`. Its call returns how much of a line that is ready was copied, and waits on else. -/
structure Tries (c : Computer) (pid : ProcessId) (r : Registers) (c' : Computer) : Prop where
  yields : c'.running =
    if (c.kernel.line c.kernel.scheduled).committed then
      .user { r with rax := UInt64.ofNat (c.fitting r) }
    else .reading r 0 r.rsi.toNat r.rdx.toNat
  small : c.fitting r < failed.toNat
  writes : ∀ q offset, offset < programSlotSize → c.kernel.Touched c'.kernel q offset →
    q = pid ∧ r.rsi.toNat ≤ programWindow + offset ∧
      programWindow + offset < r.rsi.toNat + r.rdx.toNat

/-- What a call of process `pid` with the registers `r` yields if it is not refused. -/
inductive Yields (c : Computer) (pid : ProcessId) (r : Registers) : Prop
  /-- A descriptor, a count or zero. -/
  | number {s : Syscall} {a : Action} {n : Nat} (asked : Syscall.ofNumber? r.rax.toNat = some s)
      (request : c.kernel.request? r s = some a) (result : c.kernel.result a = .ok n)
      (most : n ≤ s.most r) (small : n < failed.toNat)
      (answers : (c.dispatch r).running = .user { r with rax := UInt64.ofNat n })
  /-- How much of a line is copied, once there is one. -/
  | line (asked : Syscall.ofNumber? r.rax.toNat = some .read) (input : r.rdi.toNat = 0)
      (stops : (c.dispatch r).running = .reading r 0 r.rsi.toNat r.rdx.toNat)
      (waits : ∀ events, (c.dispatch r).Unserved c.kernel.scheduled events →
        ((c.dispatch r).afterAll events).Waits c.kernel.scheduled pid
          (.reading r 0 r.rsi.toNat r.rdx.toNat))
      (later : ∀ events, (c.dispatch r).Unserved c.kernel.scheduled events → ∀ e,
        ((c.dispatch r).afterAll events).Retries c.kernel.scheduled e →
          ((c.dispatch r).afterAll events).Tries pid r (((c.dispatch r).afterAll events).step e).1)
  /-- The status of the process that a command starts, once it ends. -/
  | status {q : ProcessId} (asked : Syscall.ofNumber? r.rax.toNat = some .execute)
      (fresh : c.kernel.processes.process? q = none) (awaits : (c.dispatch r).Awaits q r)
      (enters : ∃ entry stack, (c.dispatch r).running = .user (.start entry stack))
      (later : ∀ events, (c.dispatch r).Spares q events → ∀ e status,
        ((c.dispatch r).afterAll events).Ends e q status → status.toUInt64 < failed ∧
          (((c.dispatch r).afterAll events).step e).1.running =
            .user { r with rax := status.toUInt64 })
  /-- The process itself ends, and no program that goes on sees a failure. -/
  | nothing {s : Syscall} {a : Action} {status : UInt8}
      (asked : Syscall.ofNumber? r.rax.toNat = some s) (request : c.kernel.request? r s = some a)
      (exits : a.exitStatus? = some status)
      (others : ∀ r', (c.dispatch r).running = .user r' → r'.rax ≠ failed)

theorem Yields.ne_failed (yields : c.Yields pid r) :
    (c.dispatch r).running ≠ .user { r with rax := failed } := by
  intro answers
  cases yields with
  | number _ _ _ _ small number =>
    rw [number] at answers
    exact ofNat_ne_failed small (congrArg Registers.rax (Flow.user.inj answers))
  | line _ _ stops =>
    rw [stops] at answers
    cases answers
  | status _ _ _ enters =>
    obtain ⟨entry, stack, entered⟩ := enters
    rw [entered] at answers
    have zero : (0 : UInt64) = failed := congrArg Registers.rax (Flow.user.inj answers)
    exact absurd zero (by decide)
  | nothing _ _ _ others => exact others _ answers rfl

/-! ### Lines -/

theorem tries_tryRead (settled : c.kernel.Settled) (serves : c.kernel.Serves pid)
    (accepted : c.kernel.acceptsRange r.rsi.toNat r.rdx.toNat = true)
    (small : r.rdx.toNat < failed.toNat) :
    c.Tries pid r (c.tryRead r 0 r.rsi.toNat r.rdx.toNat) where
  yields := by
    obtain ⟨p, running, here⟩ := settled.current_of_runs serves.runs
    cases ready : (c.kernel.line c.kernel.scheduled).committed with
    | false =>
      rw [(tryRead_of_editing settled serves.runs ready).2]
      rfl
    | true =>
      rw [tryRead, read_input settled.tabled running, here, readLine_of_committed ready, fitting,
        ← List.length_take]
      rfl
  small := Nat.lt_of_le_of_lt (Nat.min_le_left _ _) small
  writes q offset inside touched := by
    rw [kernel_tryRead] at touched
    exact touched_of_copy (a := .read 0 (some r.rdx.toNat)) serves settled rfl rfl accepted
      (c.kernel.length_read_le 0 r.rdx.toNat) inside touched

/-- A read that waits has changed nothing but what its caller does. -/
theorem served_of_blocks (settled : c.kernel.Settled) (running : c.kernel.current = .ok (pid, p))
    (input : r.rdi.toNat = 0) (editing : (c.kernel.line p.terminal).committed = false) :
    c.kernel.served r .read (.read r.rdi.toNat (some r.rdx.toNat)) = c.kernel := by
  have refused : c.kernel.read 0 (some r.rdx.toNat) = (c.kernel, .fail .wouldBlock) := by
    rw [read_input settled.tabled running, readLine_of_editing editing]
  rw [served, act, delivered, input, refused]
  exact storeUser_nil _ _

theorem yields_of_blocks (settled : c.kernel.Settled) (serves : c.kernel.Serves pid)
    (running : c.kernel.current = .ok (pid, p))
    (asked : Syscall.ofNumber? r.rax.toNat = some .read)
    (accepted : c.kernel.acceptsRange r.rsi.toNat r.rdx.toNat = true)
    (small : r.rdx.toNat < failed.toNat)
    (blocks : c.kernel.Blocks (.read r.rdi.toNat (some r.rdx.toNat)))
    (dispatched : c.dispatch r =
      { c.withKernel (c.kernel.served r .read (.read r.rdi.toNat (some r.rdx.toNat))) with
        running := .reading r r.rdi.toNat r.rsi.toNat r.rdx.toNat }) :
    c.Yields pid r := by
  obtain ⟨input, editing⟩ := editing_of_blocks settled.tabled running blocks
  have here := (Kernel.owner_of_current settled.sound settled.onStack running).2
  rw [served_of_blocks settled running input editing, input] at dispatched
  have waits : (c.dispatch r).Waits c.kernel.scheduled pid
      (.reading r 0 r.rsi.toNat r.rdx.toNat) := by
    rw [dispatched, ← here]
    exact waits_of_current settled running
  have same : (c.dispatch r).kernel = c.kernel := by rw [dispatched]; rfl
  have settled₀ : (c.dispatch r).kernel.Settled := same ▸ settled
  have waiting := fun events unserved => (waits.afterAll settled₀ events unserved).1
  refine .line asked input (by rw [dispatched]) waiting fun events unserved e retries => ?_
  have settled' := settled_afterAll settled₀ events
  have runs := (waiting events unserved).runs_of_scheduled settled' retries.2.1
  -- Whatever happened to the video window meanwhile, it is not closed again.
  have step : c.kernel.viewport.Step ((c.dispatch r).afterAll events).kernel.viewport := by
    rw [← same]
    exact viewport_afterAll settled₀ events
  have serves' : ((c.dispatch r).afterAll events).kernel.Serves pid :=
    ⟨settled'.sound, (runs.scheduled ▸ runs.owner :), step.closed_or_open serves.shown⟩
  rw [((waiting events unserved).retry settled' retries).1]
  exact tries_tryRead settled' serves' (acceptsRange_step step accepted) small

/-! ### Processes that are started -/

theorem exists_call (c : Computer) (r : Registers) :
    ∃ flow e, ({ c with running := flow } : Computer).call? e = some r := by
  refine ⟨.user { r with rip := r.rip - 2 }, .interrupt syscallVector, ?_⟩
  simp only [call?, if_true, UInt64.sub_add_cancel]

theorem parentFor_of_owner (settled : c.kernel.Settled)
    (owner : (c.kernel.session c.kernel.scheduled).owner = some pid) :
    c.kernel.roster.parentFor c.kernel.scheduled = some pid := by
  obtain ⟨rest, stacked⟩ := settled.sound.line_of_owner owner
  exact stacked.toLined.parentFor fun _ => stacked.owner

theorem yields_of_launch (settled : c.kernel.Settled) (running : c.kernel.current = .ok (pid, p))
    {line : List UInt8} (asked : Syscall.ofNumber? r.rax.toNat = some .execute)
    (request : c.kernel.request? r .execute = some (.execute line))
    (other : (Command.parse line).name ≠ Command.exitName)
    (succeeds : c.kernel.failure? (.execute line) = none)
    (acts : c.kernel.act (.execute line) = (k, transfer))
    (dispatched : c.dispatch r =
      (c.withKernel k).perform c.kernel.stackPointer (.calling r) transfer) :
    c.Yields pid r := by
  obtain ⟨owner, _⟩ := Kernel.owner_of_current settled.sound settled.onStack running
  obtain ⟨l, rfl, free, _, after⟩ := launch_of_execute other (eq_ok_of_ofCall acts succeeds)
  obtain ⟨flow, e, call⟩ := c.exists_call r
  have hands := handsOver_of_request call asked request rfl succeeds acts
  have stepped : (({ c with running := flow } : Computer).step e).1 = c.dispatch r :=
    step_of_call call
  have child : k.roster.link? l.pid = some ⟨pid, c.kernel.scheduled⟩ := by
    rw [after, Roster.link?_begin, if_pos rfl, parentFor_of_owner settled owner, Option.getD_some]
  have parent : pid ≠ l.pid := by
    rintro rfl
    obtain ⟨_, live, _⟩ := settled.sound.on_of_owner owner
    rw [live] at free
    cases free
  obtain ⟨r', call', awaits⟩ := hands.awaits settled ⟨l, rfl, rfl⟩ child parent
  obtain rfl : r = r' := Option.some_inj.mp (call.symm.trans call')
  have settled' : (c.dispatch r).kernel.Settled :=
    stepped ▸ settled_step (c := { c with running := flow }) settled e
  rw [stepped] at awaits
  have unused : c.kernel.processes.process? l.pid = none := by
    simpa only [roster, Option.map_eq_none_iff] using free
  refine .status asked unused awaits ⟨l.entry, l.userStack, by rw [dispatched]; rfl⟩ ?_
  intro events spared e status ends
  exact ⟨toUInt64_lt_failed status,
    (awaits.afterAll settled' spared).returns (settled_afterAll settled' events) ends⟩

/-! ## Calls that are refused -/

theorem not_refuses (asked : Syscall.ofNumber? r.rax.toNat = some s)
    (request : c.kernel.request? r s = some a)
    (fine : c.kernel.failure? a = none ∨ c.kernel.Blocks a) (yields : c.Yields pid r) :
    ¬ c.kernel.Refuses r := by
  intro refuses
  cases refuses with
  | number unknown =>
    rw [asked] at unknown
    cases unknown
  | memory asked names outside =>
    refine yields.ne_failed ?_
    rw [dispatch_of_outside asked names outside]
    rfl
  | signal asked' signal =>
    rw [asked] at asked'
    cases asked'
    rcases signal with rfl | rfl <;> cases request
  | operation asked' request' fails final =>
    rw [asked] at asked'
    cases asked'
    rw [request] at request'
    cases request'
    rcases fine with none | blocks
    · rw [none] at fails
      cases fails
    · exact final blocks

/-- A call is refused and returns the value of a failure, or it is not refused and yields less. -/
theorem refused_or_yields (settled : c.kernel.Settled) (attended : c.Attended)
    (serves : c.kernel.Serves pid) (running : c.kernel.current = .ok (pid, p)) (r : Registers) :
    (c.kernel.Refuses r ∧ (c.dispatch r).running = .user { r with rax := failed }) ∨
      ¬ c.kernel.Refuses r ∧ c.Yields pid r := by
  by_cases outside : ∃ s start length, Syscall.ofNumber? r.rax.toNat = some s ∧
    s.names? r = some (start, length) ∧ c.kernel.acceptsRange start length = false
  · obtain ⟨s, start, length, asked, names, outside⟩ := outside
    refine .inl ⟨.memory asked names outside, ?_⟩
    rw [dispatch_of_outside asked names outside]
    rfl
  have accepted {s : Syscall} (asked : Syscall.ofNumber? r.rax.toNat = some s) (start length : Nat)
      (names : s.names? r = some (start, length)) : c.kernel.acceptsRange start length = true := by
    rw [← Bool.not_eq_false]
    exact fun refused => outside ⟨s, start, length, asked, names, refused⟩
  have ends := c.dispatches r
  generalize dispatched : c.dispatch r = c' at ends
  cases ends with
  | unknown unknown => exact .inl ⟨.number unknown, rfl⟩
  | outside asked names outside => exact .inl ⟨.memory asked names outside, rfl⟩
  | signal asked signal => exact .inl ⟨.signal asked signal, rfl⟩
  | @rejected line k cause asked request rejected =>
    have fails : c.kernel.failure? (.execute line) = some cause := by
      rw [failure?, rejected]
      rfl
    exact .inl ⟨.operation asked request fails (not_blocks_of_ne (by simp)), rfl⟩
  | failed asked request _ fails final => exact .inl ⟨.operation asked request fails final, rfl⟩
  | answered asked request returns yields =>
    have most := result_le_most request returns yields
    have small := Nat.lt_of_le_of_lt most (most_lt_failed (accepted asked))
    have number : c.Yields pid r := .number asked request yields most small (by rw [dispatched]; rfl)
    have fine := failure?_eq_causeOf (k := c.kernel) returns
    rw [yields] at fine
    exact .inr ⟨not_refuses asked request (.inl fine) number, number⟩
  | waits asked request blocks =>
    have small : Syscall.read.most r < failed.toNat := most_lt_failed (accepted asked)
    have line := yields_of_blocks settled serves running asked (accepted asked _ _ rfl) small blocks
      dispatched
    exact .inr ⟨not_refuses asked request (.inr blocks) line, line⟩
  | @handsOver s a k transfer asked request hands succeeds acts =>
    have yields : c.Yields pid r := by
      cases exits : a.exitStatus? with
      | some status =>
        refine .nothing asked request exits ?_
        rw [dispatched]
        exact (performed attended running hands succeeds acts _ _).2
      | none =>
        rcases loads_of_handsOver request hands with rfl | rfl
        · cases request
          cases exits
        · obtain ⟨line, _, rfl⟩ := Option.map_eq_some_iff.mp request
          have other : (Command.parse line).name ≠ Command.exitName := by
            intro isExit
            rw [Action.exitStatus?, if_pos isExit] at exits
            cases exits
          exact yields_of_launch settled running asked request other succeeds acts dispatched
    exact .inr ⟨not_refuses asked request (.inl succeeds) yields, yields⟩

/-! ## Slots that are written -/

/-- Why a call of process `pid` with the registers `r` may change a byte of a slot. -/
inductive Writes (c : Computer) (pid : ProcessId) (r : Registers) (q : ProcessId) (offset : Nat) :
    Prop
  /-- The byte lies in the caller's buffer. -/
  | buffer {s : Syscall} {start length : Nat} (asked : Syscall.ofNumber? r.rax.toNat = some s)
      (fills : s.fills? r = some (start, length)) (own : q = pid)
      (low : start ≤ programWindow + offset) (high : programWindow + offset < start + length)
  /-- The byte belongs to the image of a program that is loaded for a number which is not live, or
  is the caller's own and free from now on. -/
  | image {s : Syscall} {a : Action} {name : List UInt8} {file : ProgramFile}
      (asked : Syscall.ofNumber? r.rax.toNat = some s) (loads : s = .halt ∨ s = .execute)
      (request : c.kernel.request? r s = some a) (vacant : c.kernel.Vacant a q)
      (found : c.kernel.files.findProgram name = .ok file) (low : programLoadOffset ≤ offset)
      (byte : (c.kernel.files.read file.inode 0 file.length).bytes[offset - programLoadOffset]? =
        some ((c.dispatch r).kernel.physicalByte (programSlot q + offset)))

theorem writes_of_image (asked : Syscall.ofNumber? r.rax.toNat = some s)
    (request : c.kernel.request? r s = some a) (hands : a.handsOver = true)
    (memory : (c.dispatch r).kernel.memory = (c.kernel.act a).1.memory)
    (inside : offset < programSlotSize) (touched : c.kernel.Touched (c.dispatch r).kernel q offset) :
    c.Writes pid r q offset := by
  obtain ⟨vacant, low, name, file, found, byte⟩ :=
    image_of_touched ((loadsImage_act hands).congr rfl rfl memory) inside touched
  exact .image asked (loads_of_handsOver request hands) request vacant found low byte

theorem writes_of_served (settled : c.kernel.Settled) (serves : c.kernel.Serves pid)
    (asked : Syscall.ofNumber? r.rax.toNat = some s) (request : c.kernel.request? r s = some a)
    (memory : (c.dispatch r).kernel.memory = (c.kernel.served r s a).memory)
    (inside : offset < programSlotSize) (touched : c.kernel.Touched (c.dispatch r).kernel q offset) :
    c.Writes pid r q offset := by
  cases hands : a.handsOver with
  | true =>
    have nothing : c.kernel.delivered a = [] := by
      cases a with
      | halt _ | execute _ => rfl
      | start | openFile _ | closeFile _ | read _ _ | write _ _ | getArgs _ | mapVideo _
      | writeScreen _ _ _ | store _ _ | tick | switchTerminal _ | key _ | clockTick | emit _ =>
        cases hands
    rw [Kernel.served, nothing, storeUser_nil] at memory
    exact writes_of_image asked request hands memory inside touched
  | false =>
    rw [touched_iff, memory, ← touched_iff] at touched
    obtain ⟨own, start, length, fills, low, high⟩ :=
      touched_of_served serves settled request hands inside touched
    exact .buffer asked fills own low high

theorem writes_of_touched (settled : c.kernel.Settled) (attended : c.Attended)
    (serves : c.kernel.Serves pid) (running : c.kernel.current = .ok (pid, p))
    (inside : offset < programSlotSize) (touched : c.kernel.Touched (c.dispatch r).kernel q offset) :
    c.Writes pid r q offset := by
  have ends := c.dispatches r
  generalize dispatched : c.dispatch r = c' at ends
  have kernel : (c.dispatch r).kernel = c'.kernel := by rw [dispatched]
  cases ends with
  | unknown _ | outside _ _ _ | signal _ _ =>
    refine absurd touched (not_touched_of_memory ?_)
    rw [kernel]
    rfl
  | @rejected line k _ asked request rejected =>
    have acts : c.kernel.act (.execute line) = (k, .stay) := congrArg ofCall rejected
    have memory : (c.dispatch r).kernel.memory = (c.kernel.act (.execute line)).1.memory := by
      rw [kernel, acts]
      rfl
    exact writes_of_image asked request rfl memory inside touched
  | failed asked request _ _ _ | answered asked request _ _ | waits asked request _ =>
    have memory := congrArg Kernel.memory kernel
    exact writes_of_served settled serves asked request memory inside touched
  | @handsOver s a k transfer asked request hands succeeds acts =>
    have memory := (performed attended running hands succeeds acts
      c.kernel.stackPointer (.calling r)).1
    rw [← congrArg Kernel.memory kernel] at memory
    exact writes_of_image asked request hands (by rw [memory, acts]) inside touched

/-! ## The video window -/

/-- A call of process `pid` mapped the video window and stored the window's address. -/
structure MapsVideo (c : Computer) (pid : ProcessId) (r : Registers) : Prop where
  answers : (c.dispatch r).running = .user { r with rax := 0 }
  shown : (c.dispatch r).kernel.viewport.Open
  stored : ∀ i, i < 8 → (Bytes.ofNat 8 videoWindow)[i]? = some
    ((c.dispatch r).kernel.physicalByte (programSlot pid + (r.rdi.toNat - programWindow) + i))

theorem dispatch_mapVideo (running : c.kernel.current = .ok (pid, p))
    (asked : Syscall.ofNumber? r.rax.toNat = some .mapVideo) (low : programWindow ≤ r.rdi.toNat)
    (high : r.rdi.toNat + 8 ≤ programWindowEnd) :
    c.dispatch r = (c.withKernel ((c.kernel.act (.mapVideo r.rdi.toNat)).1.storeUser r.rdi.toNat
      (Bytes.ofNat 8 videoWindow))).answer r 0 := by
  have accepted : UserMemory.accepts false r.rdi.toNat 8 = true :=
    (UserMemory.accepts_iff _ _ _).mpr (.inl ⟨low, high⟩)
  have some : r.rdi.toNat ≠ 0 := by
    unfold programWindow at low
    omega
  have mapped : c.kernel.mapVideo r.rdi.toNat =
      ((c.kernel.act (.mapVideo r.rdi.toNat)).1, .ok videoWindow) := by
    rw [act_mapVideo ⟨low, high⟩ running, mapVideo, if_pos ⟨low, high⟩, running]
  simp only [dispatch, asked, callMapVideo, mapped, UserMemory.buffer?, if_neg some, if_pos accepted]

theorem mapsVideo_of_inside (settled : c.kernel.Settled) (serves : c.kernel.Serves pid)
    (running : c.kernel.current = .ok (pid, p))
    (asked : Syscall.ofNumber? r.rax.toNat = some .mapVideo) (low : programWindow ≤ r.rdi.toNat)
    (high : r.rdi.toNat + 8 ≤ programWindowEnd) : c.MapsVideo pid r := by
  have dispatched := dispatch_mapVideo running asked low high
  have mapped : (c.kernel.act (.mapVideo r.rdi.toNat)).1 = c.kernel.mapScreen c.kernel.scheduled := by
    rw [act_mapVideo ⟨low, high⟩ running,
      (Kernel.owner_of_current settled.sound settled.onStack running).2]
  have runs := (serves.act settled (a := .mapVideo r.rdi.toNat) rfl rfl).runs
  have length := Bytes.length_ofNat 8 videoWindow
  have fits : r.rdi.toNat + (Bytes.ofNat 8 videoWindow).length ≤ programWindowEnd := by omega
  have stored := storeUser_slot runs low fits
  have kernel := congrArg Computer.kernel dispatched
  refine ⟨by rw [dispatched]; rfl, ?_, fun i small => ?_⟩
  · have shown := c.kernel.open_mapScreen
    rw [← mapped, ← viewport_storeUser _ r.rdi.toNat (Bytes.ofNat 8 videoWindow)] at shown
    rw [dispatched]
    exact shown
  · have slots := le_programSlot pid
    have kernel : (c.dispatch r).kernel = _ := kernel.trans stored
    rw [kernel, physicalByte_slot _ (by omega)]
    dsimp only
    rw [Memory.byteAt_write, if_pos ⟨by omega, by omega⟩, Nat.add_sub_cancel_left,
      List.getD_eq_getElem?_getD, List.getElem?_eq_getElem (by omega), Option.getD_some]

theorem dispatch_mapVideo_of_outside (asked : Syscall.ofNumber? r.rax.toNat = some .mapVideo)
    (outside : ¬ (programWindow ≤ r.rdi.toNat ∧ r.rdi.toNat + 8 ≤ programWindowEnd)) :
    c.dispatch r = c.answer r failed := by
  have refused : c.kernel.mapVideo r.rdi.toNat = (c.kernel, .error .invalidArgument) :=
    if_neg outside
  simp only [dispatch, asked, callMapVideo, refused]
  rfl

/-! ## Every call -/

/-- What a call of process `pid` with the registers `r` keeps to. -/
structure Contract (c : Computer) (pid : ProcessId) (r : Registers) : Prop where
  /-- A number of no call is reported, and nothing else happens. -/
  unknown : Syscall.ofNumber? r.rax.toNat = none →
    c.dispatch r = (c.log (.unknownSyscall r.rax.toNat)).answer r failed
  /-- Nothing happens if the memory that is named does not lie in a window that is mapped. -/
  outside : ∀ s start length, Syscall.ofNumber? r.rax.toNat = some s →
    s.names? r = some (start, length) → c.kernel.acceptsRange start length = false →
    c.dispatch r = c.answer r failed
  refused : (c.dispatch r).running = .user { r with rax := failed } ↔ c.kernel.Refuses r
  yields : ¬ c.kernel.Refuses r → c.Yields pid r
  writes : ∀ q offset, offset < programSlotSize →
    c.kernel.Touched (c.dispatch r).kernel q offset → c.Writes pid r q offset
  /-- The window is mapped and its address stored, or nothing happens. -/
  video : Syscall.ofNumber? r.rax.toNat = some .mapVideo →
    if programWindow ≤ r.rdi.toNat ∧ r.rdi.toNat + 8 ≤ programWindowEnd then c.MapsVideo pid r
    else c.dispatch r = c.answer r failed

/-- Wherever events have led, a call of the process that runs keeps to its contract, whatever is in
its registers. -/
theorem contract_reached {files : FileSystem} {arena : Arena} {storage : Kernel.Storage}
    (wide : arena.top ≤ UInt64.size) {past : List Event}
    (reached : c = (boot files arena storage).afterAll past)
    (running : c.kernel.current = .ok (pid, p)) (r : Registers) : c.Contract pid r := by
  have settled : c.kernel.Settled := reached ▸ settled_reached wide past
  have attended : c.Attended := reached ▸ attended_reached wide past
  have serves := serves_reached wide reached running
  have outcome := refused_or_yields settled attended serves running r
  refine ⟨fun unknown => ?_, fun s start length => dispatch_of_outside, ⟨fun answers => ?_,
    fun refuses => ?_⟩, fun accepted => ?_, fun q offset =>
      writes_of_touched settled attended serves running, fun asked => ?_⟩
  · rw [dispatch, unknown]
  · rcases outcome with ⟨refuses, _⟩ | ⟨_, yields⟩
    · exact refuses
    · exact absurd answers yields.ne_failed
  · rcases outcome with ⟨_, answers⟩ | ⟨accepted, _⟩
    · exact answers
    · exact absurd refuses accepted
  · rcases outcome with ⟨refuses, _⟩ | ⟨_, yields⟩
    · exact absurd refuses accepted
    · exact yields
  · split
    · rename_i inside
      exact mapsVideo_of_inside settled serves running asked inside.1 inside.2
    · rename_i outside
      exact dispatch_mapVideo_of_outside asked outside

end Computer

namespace Sample

/-- Registers with which the first shell asks for the video window, its address to be stored at the
start of the program window. -/
def mapper : Registers :=
  { Registers.start shell.entry userStackTop with rax := 8, rdi := 0x8000000 }

end Sample

/-- The first shell is told where the video window is, but not if the address is to be stored at the
null pointer. -/
theorem Computer.contract_reached_mapper :
    (Sample.booted.dispatch Sample.mapper).running = .user { Sample.mapper with rax := 0 } ∧
      ¬ Sample.booted.kernel.Refuses Sample.mapper ∧
      (Sample.booted.dispatch Sample.mapper).kernel.physicalByte (programSlot 0 + 2) = 0x40 ∧
      (Sample.booted.dispatch Sample.mapper).kernel.physicalByte (programSlot 0 + 3) = 0x08 ∧
      Sample.booted.dispatch { Sample.mapper with rdi := 0 } =
        Sample.booted.answer { Sample.mapper with rdi := 0 } failed := by
  have prompts := Sample.prompts_booted
  obtain ⟨p, running, _⟩ := prompts.running
  have contract := contract_reached (by decide)
    (show Sample.booted = (boot Sample.shellFiles Sample.arena Sample.storage).afterAll [] from rfl)
    running
  have maps : Sample.booted.MapsVideo 0 Sample.mapper := (contract Sample.mapper).video rfl
  have null := (contract { Sample.mapper with rdi := 0 }).video rfl
  refine ⟨maps.answers, fun refuses => ?_, ?_, ?_, null⟩
  · have answers := (contract Sample.mapper).refused.mpr refuses
    rw [maps.answers] at answers
    exact absurd (congrArg Registers.rax (Flow.user.inj answers)) (by decide)
  · exact (Option.some_inj.mp (maps.stored 2 (by decide))).symm
  · exact (Option.some_inj.mp (maps.stored 3 (by decide))).symm

end TerminalKernel

import TerminalKernel.Proofs.Proceeding

/-!
# Handing over the processor

An event that does not leave the processor with the program that has it ends in a handover: the
kernel decided on a transfer, a flow may be put away for it, and then another flow goes on, or the
same one, or a new program. `Computer.HandsOver` lists these events, and `step_cases` says that all
others let a flow go on, or nothing comes of them. The flow that goes on after a handover lies on the
kernel stack of the process that runs then (`HandsOver.owner_of_continues`).
-/

namespace TerminalKernel

/-- A transfer on which the kernel decided at an event. -/
structure Handover where
  /-- The computer when the transfer is decided. -/
  decided : Computer
  /-- The stack pointer with which the kernel ran. -/
  stackPointer : Nat
  /-- What a return to that stack continues. -/
  flow : Flow
  transfer : Transfer

namespace Handover

variable (h : Handover)

/-- The computer when the flow that loses the processor, if any does, is put away. -/
def parked : Computer :=
  match h.transfer.saveSlot? with
  | none => h.decided
  | some _ =>
    (h.decided.withKernel (h.decided.kernel.park h.transfer
      (.suspended (UInt64.ofNat h.stackPointer) Computer.resumePoint))).suspend
        h.stackPointer h.flow

/-- The computer when the transfer is carried out. -/
def after : Computer := h.decided.perform h.stackPointer h.flow h.transfer

/-- The stack pointer of the flow that goes on. A program that enters user mode for the first time
is none. -/
def place? : Option Nat :=
  match h.transfer with
  | .stay => some h.stackPointer
  | .resume context _ => some context.rsp.toNat
  | .switch _ target => some (h.decided.kernel.session target).context.rsp.toNat
  | .launch _ | .idle => none

/-- The flow of process `pid` goes on: one that lies on the process's kernel stack. -/
def Continues (pid : ProcessId) : Prop :=
  ∃ place, h.place? = some place ∧ h.decided.kernel.processes.arena.holder? place = some pid

theorem kernel_parked : h.parked.kernel = h.decided.kernel.park h.transfer
    (.suspended (UInt64.ofNat h.stackPointer) Computer.resumePoint) := by
  unfold parked Kernel.park
  cases h.transfer.saveSlot? <;> rfl

theorem roster_parked : h.parked.kernel.roster = h.decided.kernel.roster.park h.transfer
    (some (.suspended (UInt64.ofNat h.stackPointer) Computer.resumePoint)) := by
  rw [kernel_parked, Kernel.roster_park]

theorem line_parked (t : TerminalId) : h.parked.kernel.line t = h.decided.kernel.line t := by
  obtain ⟨_, _, same⟩ := h.decided.kernel.park_eq h.transfer
    (.suspended (UInt64.ofNat h.stackPointer) Computer.resumePoint)
  rw [kernel_parked, same]
  rfl

/-- Carrying out a transfer only puts a flow away and lets one go on. -/
theorem proceeds (settled : h.parked.kernel.Settled) : Computer.Proceeds h.parked h.after := by
  obtain ⟨c, stackPointer, flow, transfer⟩ := h
  have same := Computer.Proceeds.refl settled
  cases transfer with
  | stay => exact same.withRunning flow
  | launch l => exact same.withRunning _
  | resume context status => exact Computer.proceeds_wake settled context status
  | switch source target =>
    exact Computer.proceeds_wake settled (c.kernel.session target).context 0
  | idle => exact same.withRunning .idle

/-- A flow that waits for nothing but its turn goes on as it was left. -/
theorem after_of_place {place : Nat} (goesOn : h.place? = some place) {flow : Flow}
    (ready : ∀ r, flow ≠ .calling r) (own : h.transfer = .stay → h.flow = flow)
    (resting : h.transfer ≠ .stay → h.parked.suspended.lookup place = some flow) :
    h.after = { h.parked with running := flow } := by
  have woken : ∀ (c : Computer) (context : SavedContext) (status : UInt8),
      c.suspended.lookup context.rsp.toNat = some flow →
      c.wake context status = { c with running := flow } := by
    intro c context status found
    rw [Computer.wake, found]
    cases flow with
    | calling r => exact absurd rfl (ready r)
    | user _ | reading _ _ _ _ | woken _ _ _ _ | idle => rfl
  obtain ⟨c, stackPointer, flow', transfer⟩ := h
  cases transfer with
  | stay =>
    obtain rfl : flow' = flow := own rfl
    rfl
  | launch l | idle => cases goesOn
  | resume context status =>
    cases goesOn
    exact woken c context status (resting (by simp))
  | switch source target =>
    cases goesOn
    exact woken _ (c.kernel.session target).context 0 (resting (by simp))

end Handover

namespace Computer

/-! ## Events that hand over -/

/-- The registers of the system call that an event makes. -/
def call? (c : Computer) (e : Event) : Option Registers :=
  match c.running, e with
  | .user r, .syscall number arg0 arg1 arg2 =>
    some { r with rax := number, rdi := arg0, rsi := arg1, rdx := arg2, rip := r.rip + 2 }
  | .user r, .interrupt vector =>
    if vector = syscallVector then some { r with rip := r.rip + 2 } else none
  | _, _ => none

/-- The exception that an event raises, with the registers of the program. -/
def fault? (c : Computer) (e : Event) : Option (Registers × Fault) :=
  match c.running, e with
  | .user r, .interrupt vector =>
    if vector = syscallVector then none else some (r, gateFault vector)
  | .user r, .fault f => some (r, f)
  | _, _ => none

def faultReport (r : Registers) (f : Fault) : List Effect :=
  (f.details ++ [Notice.userFault f.name r.rip.toNat]).map .notice

/-- The keyboard interrupt before any key is handled. -/
def beginKey (c : Computer) (byte : UInt8) : Computer :=
  (c.receiveByte byte).emit (done keyboardVector)

/-- The clock's interrupt before a flow goes on. -/
def tickClock (c : Computer) : Computer :=
  let c := c.emit [.out 0x70 clockRegisterC]
  (c.withKernel { c.kernel with rtc := c.kernel.rtc.tick }).emit (done clockVector)

/-- The events that end in a handover. -/
inductive HandsOver (c : Computer) : Event → Handover → Prop
  | halt {e : Event} {r : Registers} {k : Kernel} {transfer : Transfer} (call : c.call? e = some r)
      (asked : Syscall.ofNumber? r.rax.toNat = some .halt)
      (ended : c.kernel.halt r.rdi.toUInt8 = (k, .ok transfer)) :
      HandsOver c e ⟨c.withKernel k, c.kernel.stackPointer, .calling r, transfer⟩
  | execute {e : Event} {r : Registers} {line : List UInt8} {k : Kernel} {transfer : Transfer}
      (call : c.call? e = some r) (asked : Syscall.ofNumber? r.rax.toNat = some .execute)
      (given : c.kernel.userText? r.rdi.toNat commandLimit = some line)
      (started : c.kernel.execute line = (k, .ok transfer)) :
      HandsOver c e ⟨c.withKernel k, c.kernel.stackPointer, .calling r, transfer⟩
  | fault {e : Event} {r : Registers} {f : Fault} {k : Kernel} {transfer : Transfer}
      (raised : c.fault? e = some (r, f))
      (ended : (c.kernel.emit (faultReport r f)).halt exceptionStatus = (k, .ok transfer)) :
      HandsOver c e ⟨c.withKernel k, c.kernel.stackPointer, .user r, transfer⟩
  | timer : HandsOver c .timer
      ⟨c.withKernel (c.kernel.emit (done timerVector)).tick.1, c.kernel.stackPointer,
        c.running.interrupted, (c.kernel.emit (done timerVector)).tick.2⟩
  | key {byte : UInt8} {k : Kernel} {keyboard : Keyboard} {transfer : Transfer}
      (handled : drain (c.beginKey byte).kernel (c.beginKey byte).keyboard queuePlaces =
        (k, keyboard, transfer)) :
      HandsOver c (.key byte)
        ⟨{ c.withKernel k with keyboard }, c.kernel.stackPointer, c.running.interrupted, transfer⟩
  | clock : HandsOver c .clock
      ⟨c.tickClock, c.kernel.stackPointer, c.running.interrupted, .stay⟩

/-! ## Typing -/

/-- The keys that reach terminal `t` while queued keys are handled. -/
def drainedTo (t : TerminalId) (k : Kernel) (keyboard : Keyboard) : (limit : Nat) → List Key
  | 0 => []
  | limit + 1 =>
    match keyboard.read with
    | (_, none) => []
    | (keyboard, some key) =>
      let here := if k.console.displayed = t then [key] else []
      match k.handleKey key with
      | (k, .stay) => here ++ drainedTo t k keyboard limit
      | (_, _) => here

/-- The keys that reach a terminal with an event: those that are handled while it is displayed. -/
def typed (c : Computer) (t : TerminalId) : Event → List Key
  | .key byte => drainedTo t (c.beginKey byte).kernel (c.beginKey byte).keyboard queuePlaces
  | _ => []

variable {c : Computer} {e : Event} {h : Handover} {r : Registers}

/-! ## Every event -/

theorem step_timer (c : Computer) : (c.step .timer).1 = c.onTimer := by
  unfold step
  cases c.running <;> rfl

theorem step_key (c : Computer) (byte : UInt8) : (c.step (.key byte)).1 = c.onKey byte := by
  unfold step
  cases c.running <;> rfl

theorem step_clock (c : Computer) : (c.step .clock).1 = c.onClock := by
  unfold step
  cases c.running <;> rfl

theorem step_retry (c : Computer) : (c.step .retry).1 = c.retry := by
  unfold step
  cases c.running <;> rfl

theorem step_deepen (c : Computer) (depth : Fin stackSlotSize) :
    (c.step (.deepen depth)).1 = c.atDepth depth := by
  unfold step
  cases c.running <;> rfl

theorem step_of_user (running : c.running = .user r) (e : Event) :
    c.step e = c.userEvent r e := by
  unfold step
  rw [running]

theorem step_of_call (call : c.call? e = some r) : (c.step e).1 = c.dispatch r := by
  unfold call? at call
  split at call
  · rename_i running
    cases call
    rw [step_of_user running, userEvent]
  · rename_i running
    split at call
    · rename_i gate
      cases call
      rw [step_of_user running, userEvent, if_pos gate]
    · cases call
  · cases call

theorem step_of_fault {f : Fault} (raised : c.fault? e = some (r, f)) :
    (c.step e).1 = c.raise r f := by
  unfold fault? at raised
  split at raised
  · rename_i running
    split at raised
    · cases raised
    · rename_i other
      cases raised
      rw [step_of_user running, userEvent, if_neg other]
  · rename_i running
    cases raised
    rw [step_of_user running, userEvent]
  · cases raised

/-- Queueing a key reports at most that there was no room for it. -/
theorem beginKey_eq (c : Computer) (byte : UInt8) : ∃ effects keyboard,
    c.beginKey byte = { c.withKernel (c.kernel.emit effects) with keyboard } := by
  unfold beginKey receiveByte
  generalize c.keyboard.receive byte = received
  obtain ⟨keyboard, _ | key⟩ := received
  · exact ⟨done keyboardVector, keyboard, rfl⟩
  · refine ⟨.notice (.keyDropped key) :: done keyboardVector, keyboard, ?_⟩
    exact congrArg (fun k => { c.withKernel k with keyboard })
      (c.kernel.emit_emit [.notice (.keyDropped key)] (done keyboardVector))

theorem onKey_eq (c : Computer) (byte : UInt8) :
    let d := drain (c.beginKey byte).kernel (c.beginKey byte).keyboard queuePlaces
    c.onKey byte = { c.beginKey byte with kernel := d.1, keyboard := d.2.1 }.perform
      (c.beginKey byte).kernel.stackPointer (c.beginKey byte).running.interrupted d.2.2 := rfl

theorem HandsOver.after_eq (hands : HandsOver c e h) : (c.step e).1 = h.after := by
  cases hands with
  | halt call asked ended =>
    rw [step_of_call call]
    simp only [dispatch, asked, callHalt, ended]
    rfl
  | execute call asked given started =>
    rw [step_of_call call]
    simp only [dispatch, asked, callExecute, given, started]
    rfl
  | @fault _ r f _ _ raised ended =>
    rw [step_of_fault raised]
    have ended : (c.emit (faultReport r f)).kernel.halt exceptionStatus = _ := ended
    unfold faultReport at ended
    simp only [raise, ended]
    rfl
  | timer =>
    rw [step_timer]
    rfl
  | @key byte _ _ _ handled =>
    obtain ⟨effects, queued, begun⟩ := c.beginKey_eq byte
    rw [step_key, onKey_eq, handled, begun]
    rfl
  | clock =>
    rw [step_clock]
    rfl

/-! ## What the kernel decides -/

theorem exists_user_of_call (call : c.call? e = some r) : ∃ r₀, c.running = .user r₀ := by
  unfold call? at call
  split at call
  · exact ⟨_, ‹_›⟩
  · exact ⟨_, ‹_›⟩
  · cases call

theorem exists_user_of_fault {f : Fault} (raised : c.fault? e = some (r, f)) :
    ∃ r₀, c.running = .user r₀ := by
  unfold fault? at raised
  split at raised
  · exact ⟨_, ‹_›⟩
  · exact ⟨_, ‹_›⟩
  · cases raised

theorem typed_of_call (t : TerminalId) (call : c.call? e = some r) : c.typed t e = [] := by
  cases e with
  | key byte => cases running : c.running <;> simp [call?, running] at call
  | syscall _ _ _ _ | interrupt _ | fault _ | timer | clock | put _ _ | get _ _ | retry
  | deepen _ => rfl

theorem typed_of_fault {f : Fault} (t : TerminalId) (raised : c.fault? e = some (r, f)) :
    c.typed t e = [] := by
  cases e with
  | key byte => cases running : c.running <;> simp [fault?, running] at raised
  | syscall _ _ _ _ | interrupt _ | fault _ | timer | clock | put _ _ | get _ _ | retry
  | deepen _ => rfl

/-- What an interrupt comes to. The running flow keeps its turn, or it is saved at its terminal, and
every key that is handled reaches the line of one terminal. -/
structure Interrupted (k : Kernel) (typed : TerminalId → List Key) (transfer : Transfer)
    (k' : Kernel) : Prop where
  decides : k.Decides transfer k'
  preempts : transfer = .stay ∨ transfer.saveSlot? = some (.terminal k.scheduled)
  line : ∀ t, k'.line t = (typed t).foldl InputLine.press (k.line t)

namespace Interrupted

variable {k k' k'' : Kernel} {typed typed' : TerminalId → List Key} {transfer : Transfer}

theorem trans (first : Interrupted k typed .stay k') (second : Interrupted k' typed' transfer k'') :
    Interrupted k (fun t => typed t ++ typed' t) transfer k'' where
  decides := first.decides.trans second.decides
  preempts := by
    have same : k'.scheduled = k.scheduled := congrArg Roster.scheduled first.decides.roster_eq
    rw [← same]
    exact second.preempts
  line t := by rw [List.foldl_append, ← first.line t, second.line t]

/-- An action that no key has a part in. -/
theorem of_act (settled : k.Settled) {a : Action} (acts : k.act a = (k', transfer))
    (quiet : a.isInput = false) (later : a ≠ .start)
    (preempts : transfer = .stay ∨ transfer.saveSlot? = some (.terminal k.scheduled)) :
    Interrupted k (fun _ => []) transfer k' :=
  ⟨settled.decides acts fun start => absurd start later, preempts, settled.line_act acts quiet⟩

theorem emit (settled : k.Settled) (effects : List Effect) :
    Interrupted k (fun _ => []) .stay (k.emit effects) :=
  of_act settled (a := .emit effects) rfl rfl (by simp) (.inl rfl)

theorem beginKey {c : Computer} (settled : c.kernel.Settled) (byte : UInt8) :
    Interrupted c.kernel (fun _ => []) .stay (c.beginKey byte).kernel := by
  obtain ⟨effects, queued, begun⟩ := c.beginKey_eq byte
  rw [begun]
  exact emit settled effects

theorem tick (settled : k.Settled) : Interrupted k (fun _ => []) k.tick.2 k.tick.1 := by
  refine of_act settled (a := .tick) rfl rfl (by simp) ?_
  rcases k.tick_cases with same | ⟨_, noted⟩ | ⟨_, _, _, _, _, _, turned⟩
  · rw [same]
    exact .inl rfl
  · rw [noted]
    exact .inl rfl
  · rw [turned]
    exact .inr rfl

theorem preempts_displayFresh (k : Kernel) (t : TerminalId) :
    (k.displayFresh t).2 = .stay ∨
      (k.displayFresh t).2.saveSlot? = some (.terminal k.scheduled) := by
  have starts := (k.display t).spawn_starts t shellName [] (some k.scheduled)
  unfold Kernel.displayFresh
  generalize (k.display t).spawn t shellName [] (some k.scheduled) = spawned at starts ⊢
  obtain ⟨k', cause | launch⟩ := spawned
  · exact .inl rfl
  · exact .inr (congrArg some starts.2.2.1)

theorem preempts_switchTerminal (k : Kernel) (t : TerminalId) : (k.switchTerminal t).2 = .stay ∨
    (k.switchTerminal t).2.saveSlot? = some (.terminal k.scheduled) := by
  unfold Kernel.switchTerminal
  split
  · exact .inl rfl
  · split
    · exact .inl rfl
    · split
      · exact .inl rfl
      · exact preempts_displayFresh k t

theorem key (settled : k.Settled) (key : Key) :
    Interrupted k (fun t => if k.console.displayed = t then [key] else []) (k.handleKey key).2
      (k.handleKey key).1 where
  decides := settled.decides (a := .key key) rfl (by simp)
  preempts := by
    rcases k.handleKey_cases key with taken | ⟨-, t, selected⟩
    · rw [taken]
      exact .inl rfl
    · rw [selected]
      exact preempts_switchTerminal k t
  line t := by
    have step := settled.line_key key t
    split
    · rename_i shown
      rw [if_pos shown] at step
      exact step
    · rename_i hidden
      rw [if_neg hidden] at step
      exact step

/-- Queued keys are handled one by one until one of them hands the processor over. -/
theorem drain (settled : k.Settled) (keyboard : Keyboard) (limit : Nat) :
    Interrupted k (fun t => drainedTo t k keyboard limit) (Computer.drain k keyboard limit).2.2
      (Computer.drain k keyboard limit).1 := by
  induction limit generalizing k keyboard with
  | zero => exact ⟨settled.refl, .inl rfl, fun _ => rfl⟩
  | succ limit ih =>
    unfold Computer.drain drainedTo
    generalize keyboard.read = read
    obtain ⟨keyboard, _ | first⟩ := read
    · exact ⟨settled.refl, .inl rfl, fun _ => rfl⟩
    · have handled := key settled first
      dsimp only
      generalize k.handleKey first = result at handled ⊢
      obtain ⟨k', transfer⟩ := result
      cases transfer with
      | stay => exact handled.trans (ih (settled.stay handled.decides) keyboard)
      | launch _ | resume _ _ | switch _ _ | idle => exact handled

end Interrupted

/-! ## What a handover comes to -/

namespace HandsOver

theorem suspended (hands : HandsOver c e h) : h.decided.suspended = c.suspended := by
  cases hands <;> rfl

theorem stackPointer (hands : HandsOver c e h) : h.stackPointer = c.kernel.stackPointer := by
  cases hands <;> rfl

/-- A handover is an interrupt's, or the program that runs ends or starts another. -/
theorem interrupted_or_called (hands : HandsOver c e h) (settled : c.kernel.Settled) :
    h.flow = c.running.interrupted ∧
      Interrupted c.kernel (c.typed · e) h.transfer h.decided.kernel ∨
    (∃ r, c.running = .user r) ∧ c.kernel.Decides h.transfer h.decided.kernel ∧
      ∀ t, c.typed t e = [] ∧ h.decided.kernel.line t = c.kernel.line t := by
  cases hands with
  | @halt _ r _ _ call asked ended =>
    have acts : c.kernel.act (.halt r.rdi.toUInt8) = _ := congrArg Kernel.ofCall ended
    exact .inr ⟨exists_user_of_call call, settled.decides acts (by simp), fun t =>
      ⟨typed_of_call t call, settled.line_act acts rfl t⟩⟩
  | @execute _ _ line _ _ call asked given started =>
    have acts : c.kernel.act (.execute line) = _ := congrArg Kernel.ofCall started
    exact .inr ⟨exists_user_of_call call, settled.decides acts (by simp), fun t =>
      ⟨typed_of_call t call, settled.line_act acts rfl t⟩⟩
  | @fault _ r f _ _ raised ended =>
    have reported := (Interrupted.emit settled (faultReport r f)).decides
    have acts : (c.kernel.emit (faultReport r f)).act (.halt exceptionStatus) = _ :=
      congrArg Kernel.ofCall ended
    have settled' := settled.stay reported
    exact .inr ⟨exists_user_of_fault raised, reported.trans (settled'.decides acts (by simp)),
      fun t => ⟨typed_of_fault t raised, settled'.line_act acts rfl t⟩⟩
  | timer =>
    have done := Interrupted.emit settled (done timerVector)
    exact .inl ⟨rfl, done.trans (.tick (settled.stay done.decides))⟩
  | @key byte k keyboard transfer handled =>
    have queueing := Interrupted.beginKey settled byte
    have drained := Interrupted.drain (settled.stay queueing.decides) (c.beginKey byte).keyboard
      queuePlaces
    rw [handled] at drained
    exact .inl ⟨rfl, queueing.trans drained⟩
  | clock =>
    have asked := Interrupted.emit settled [.out 0x70 clockRegisterC]
    have settled₁ := settled.stay asked.decides
    have ticked := Interrupted.of_act settled₁ (a := .clockTick) rfl rfl (by simp) (.inl rfl)
    have settled₂ := settled₁.stay ticked.decides
    exact .inl ⟨rfl, (asked.trans ticked).trans (.emit settled₂ (done clockVector))⟩

theorem decides (hands : HandsOver c e h) (settled : c.kernel.Settled) :
    c.kernel.Decides h.transfer h.decided.kernel := by
  rcases hands.interrupted_or_called settled with ⟨_, interrupted⟩ | ⟨_, decides, _⟩
  · exact interrupted.decides
  · exact decides

theorem settled_parked (hands : HandsOver c e h) (settled : c.kernel.Settled) :
    h.parked.kernel.Settled := by
  rw [h.kernel_parked, hands.stackPointer]
  exact settled.park (hands.decides settled) resumePoint

/-- The keys that were typed are all that reached a line. -/
theorem line_eq (hands : HandsOver c e h) (settled : c.kernel.Settled) (t : TerminalId) :
    h.parked.kernel.line t = (c.typed t e).foldl InputLine.press (c.kernel.line t) := by
  rw [h.line_parked]
  rcases hands.interrupted_or_called settled with ⟨_, interrupted⟩ | ⟨_, _, called⟩
  · exact interrupted.line t
  · rw [(called t).1, (called t).2]
    rfl

/-- A key that has no part in choosing a terminal reaches the one that is displayed, and what runs
goes on. -/
theorem of_plain_key {byte : UInt8} {keyboard keyboard' : Keyboard} {key : Key}
    (queued : c.keyboard.receive byte = (keyboard, none))
    (first : keyboard.read = (keyboard', some key)) (last : keyboard'.read = (keyboard', none))
    (plain : ∀ number, key ≠ .altF number) :
    c.typed c.kernel.console.displayed (.key byte) = [key] ∧
      ∃ h, c.HandsOver (.key byte) h ∧ h.transfer = .stay ∧ h.parked.keyboard = keyboard' ∧
        h.parked.kernel.console.displayed = c.kernel.console.displayed := by
  have begun : c.beginKey byte =
      { c.withKernel (c.kernel.emit (done keyboardVector)) with keyboard } := by
    unfold beginKey receiveByte
    rw [queued]
    rfl
  have taken : (c.kernel.emit (done keyboardVector)).handleKey key =
      (((c.kernel.emit (done keyboardVector)).receiveKey key).1, .stay) := by
    rcases (c.kernel.emit (done keyboardVector)).handleKey_cases key with
      taken | ⟨⟨number, selects⟩, -⟩
    · exact taken
    · exact absurd selects (plain number)
  constructor
  · rw [typed, begun]
    simp only [withKernel, drainedTo, first, taken, last]
    exact congrArg (· ++ []) (if_pos rfl)
  · refine ⟨⟨{ c.withKernel ((c.kernel.emit (done keyboardVector)).receiveKey key).1 with
      keyboard := keyboard' }, c.kernel.stackPointer, c.running.interrupted, .stay⟩, .key ?_, rfl,
      rfl, ?_⟩
    · rw [begun]
      simp only [withKernel, drain, first, taken, last]
    · change ((c.kernel.emit (done keyboardVector)).receiveKey key).1.console.displayed = _
      rw [Kernel.console_receiveKey, Console.displayed_receiveKey]
      rfl

/-- A flow that goes on is that of the process that runs then. -/
theorem owner_of_continues (hands : HandsOver c e h) (settled : c.kernel.Settled) {pid : ProcessId}
    {l : Link} (live : c.kernel.roster.link? pid = some l) (goesOn : h.Continues pid) :
    (h.parked.kernel.session h.parked.kernel.scheduled).owner = some pid := by
  have decides := hands.decides settled
  have parked : (h.parked.kernel.roster.seat h.parked.kernel.roster.scheduled).owner =
      (h.decided.kernel.roster.seat h.decided.kernel.roster.scheduled).owner := by
    rw [h.roster_parked, Roster.seat_park, Roster.scheduled_park]
  refine Eq.trans parked ?_
  obtain ⟨place, goesOn, holder⟩ := goesOn
  rw [decides.arena_eq] at holder
  -- The flow that goes on without having been suspended is the one on whose stack the kernel runs.
  have own (stays : h.transfer = .stay) (here : h.stackPointer = place) :
      (h.decided.kernel.roster.seat h.decided.kernel.roster.scheduled).owner = some pid := by
    rw [stays] at decides
    rw [decides.roster_eq]
    rw [← here, hands.stackPointer] at holder
    exact settled.owner_of_holder? live holder
  have suspended {context : SavedContext}
      (resumed : h.decided.kernel.roster.resumed? h.transfer = some context)
      (here : context.rsp.toNat = place) :
      (h.decided.kernel.roster.seat h.decided.kernel.roster.scheduled).owner = some pid := by
    obtain ⟨q, owner, rests⟩ := decides.step.rests_of_resumed settled.sound settled.threaded resumed
    rw [here] at rests
    exact owner.trans (rests.symm.trans holder)
  unfold Handover.place? at goesOn
  cases transfer : h.transfer with
  | stay =>
    rw [transfer] at goesOn
    exact own transfer (Option.some_inj.mp goesOn)
  | launch l | idle =>
    rw [transfer] at goesOn
    cases goesOn
  | resume context status =>
    rw [transfer] at goesOn
    exact suspended (by rw [transfer]; rfl) (Option.some_inj.mp goesOn)
  | switch source target =>
    rw [transfer] at goesOn
    exact suspended (by rw [transfer]; rfl) (Option.some_inj.mp goesOn)

end HandsOver

/-! ## All other events -/

theorem dispatch_cases (settled : c.kernel.Settled) (call : c.call? e = some r) :
    (∃ h, HandsOver c e h) ∨ Proceeds c (c.dispatch r) := by
  unfold dispatch
  dsimp only
  cases asked : Syscall.ofNumber? r.rax.toNat with
  | none => exact .inr ((Proceeds.emit settled [_]).withRunning _)
  | some number =>
    cases number with
    | halt =>
      cases ended : c.kernel.halt r.rdi.toUInt8 with
      | mk k result =>
        cases result with
        | ok transfer => exact .inl ⟨_, .halt call asked ended⟩
        | error cause =>
          have failed := proceeds_failed settled (a := .halt r.rdi.toUInt8) ended rfl
            (by simp) (by simp)
          refine .inr ?_
          simp only [callHalt, ended]
          exact failed.withRunning _
    | execute =>
      cases given : c.kernel.userText? r.rdi.toNat commandLimit with
      | none =>
        simp only [callExecute, given]
        exact .inr ((Proceeds.refl settled).withRunning _)
      | some line =>
        cases started : c.kernel.execute line with
        | mk k result =>
          cases result with
          | ok transfer => exact .inl ⟨_, .execute call asked given started⟩
          | error cause =>
            have failed := proceeds_failed settled (a := .execute line) started rfl
              (by simp) (by simp)
            simp only [callExecute, given, started]
            exact .inr ((failed.trans
              (Proceeds.emit (failed.settled settled) [_])).withRunning _)
    | read => exact .inr (proceeds_callRead settled r _ _ _)
    | write => exact .inr (proceeds_callWrite settled r _ _ _)
    | openFile => exact .inr (proceeds_callOpen settled r _)
    | closeFile => exact .inr (proceeds_callClose settled r _)
    | getArgs => exact .inr (proceeds_callGetArgs settled r _ _)
    | mapVideo => exact .inr (proceeds_callMapVideo settled r _)
    | setHandler | signalReturn => exact .inr ((Proceeds.refl settled).answerCount r _)

theorem raise_cases (settled : c.kernel.Settled) {f : Fault} (raised : c.fault? e = some (r, f)) :
    (∃ h, HandsOver c e h) ∨ Proceeds c (c.raise r f) := by
  cases ended : (c.kernel.emit (faultReport r f)).halt exceptionStatus with
  | mk k result =>
    cases result with
    | ok transfer => exact .inl ⟨_, .fault raised ended⟩
    | error cause =>
      have reported := Proceeds.emit settled (faultReport r f)
      have failed := proceeds_failed (c := c.emit (faultReport r f)) (reported.settled settled)
        (a := .halt exceptionStatus) ended rfl (by simp) (by simp)
      have raises : c.raise r f = (c.emit (faultReport r f)).withKernel k := by
        have ended : (c.emit (faultReport r f)).kernel.halt exceptionStatus = _ := ended
        unfold faultReport at ended
        simp only [raise, ended]
        rfl
      rw [raises]
      exact .inr (reported.trans failed)

/-- An event that hands nothing over may let a flow go on: that of the program that runs, or of a read
that tries again. -/
inductive GoesOn (c : Computer) (e : Event) : Prop
  | user {r : Registers} (running : c.running = .user r)
  | retry {r : Registers} {fd address room : Nat} (running : c.running = .woken r fd address room)
      (again : e = .retry)

/-- An event hands the processor over, lets a flow go on, or has no other effect than to move the
stack pointer. -/
theorem step_cases (settled : c.kernel.Settled) (e : Event) :
    (∃ h, HandsOver c e h) ∨ (∀ t, c.typed t e = []) ∧
      ((∃ depth, (c.step e).1 = c.atDepth depth) ∨ c.GoesOn e ∧ Proceeds c (c.step e).1) := by
  have called {e : Event} {r : Registers} (call : c.call? e = some r) :
      (∃ h, HandsOver c e h) ∨ (∀ t, c.typed t e = []) ∧
        ((∃ depth, (c.step e).1 = c.atDepth depth) ∨ c.GoesOn e ∧ Proceeds c (c.step e).1) := by
    rw [step_of_call call]
    obtain ⟨r₀, running⟩ := exists_user_of_call call
    exact (dispatch_cases settled call).imp id fun proceeds =>
      ⟨fun t => typed_of_call t call, .inr ⟨.user running, proceeds⟩⟩
  have failed {e : Event} {r : Registers} {f : Fault} (raised : c.fault? e = some (r, f)) :
      (∃ h, HandsOver c e h) ∨ (∀ t, c.typed t e = []) ∧
        ((∃ depth, (c.step e).1 = c.atDepth depth) ∨ c.GoesOn e ∧ Proceeds c (c.step e).1) := by
    rw [step_of_fault raised]
    obtain ⟨r₀, running⟩ := exists_user_of_fault raised
    exact (raise_cases settled raised).imp id fun proceeds =>
      ⟨fun t => typed_of_fault t raised, .inr ⟨.user running, proceeds⟩⟩
  have unchanged : c = c.atDepth c.kernel.stackDepth := rfl
  cases running : c.running with
  | user r =>
    cases e with
    | timer => exact .inl ⟨_, .timer⟩
    | key byte => exact .inl ⟨_, .key rfl⟩
    | clock => exact .inl ⟨_, .clock⟩
    | syscall number arg0 arg1 arg2 => exact called (by simp only [call?, running]; rfl)
    | interrupt vector =>
      by_cases gate : vector = syscallVector
      · exact called (by simp only [call?, running, if_pos gate]; rfl)
      · exact failed (by simp only [fault?, running, if_neg gate]; rfl)
    | fault f => exact failed (by simp only [fault?, running]; rfl)
    | put address bytes =>
      refine .inr ⟨fun _ => rfl, .inr ⟨.user running, ?_⟩⟩
      rw [step_of_user running, userEvent]
      split
      · exact Proceeds.store settled address bytes
      · exact .refl settled
    | get address count =>
      refine .inr ⟨fun _ => rfl, .inl ⟨_, Eq.trans ?_ unchanged⟩⟩
      rw [step_of_user running, userEvent]
      split <;> rfl
    | retry =>
      refine .inr ⟨fun _ => rfl, .inr ⟨.user running, ?_⟩⟩
      rw [step_retry]
      exact proceeds_retry settled
    | deepen depth => exact .inr ⟨fun _ => rfl, .inl ⟨depth, c.step_deepen depth⟩⟩
  | woken r fd address room =>
    cases e with
    | timer => exact .inl ⟨_, .timer⟩
    | key byte => exact .inl ⟨_, .key rfl⟩
    | clock => exact .inl ⟨_, .clock⟩
    | retry =>
      refine .inr ⟨fun _ => rfl, .inr ⟨.retry running rfl, ?_⟩⟩
      rw [step_retry]
      exact proceeds_retry settled
    | deepen depth => exact .inr ⟨fun _ => rfl, .inl ⟨depth, c.step_deepen depth⟩⟩
    | syscall _ _ _ _ | interrupt _ | fault _ | put _ _ | get _ _ =>
      refine .inr ⟨fun _ => rfl, .inl ⟨_, Eq.trans ?_ unchanged⟩⟩
      unfold step
      rw [running]
  | reading _ _ _ _ | calling _ | idle =>
    cases e with
    | timer => exact .inl ⟨_, .timer⟩
    | key byte => exact .inl ⟨_, .key rfl⟩
    | clock => exact .inl ⟨_, .clock⟩
    | retry =>
      refine .inr ⟨fun _ => rfl, .inl ⟨_, Eq.trans ?_ unchanged⟩⟩
      rw [step_retry, retry, running]
    | deepen depth => exact .inr ⟨fun _ => rfl, .inl ⟨depth, c.step_deepen depth⟩⟩
    | syscall _ _ _ _ | interrupt _ | fault _ | put _ _ | get _ _ =>
      refine .inr ⟨fun _ => rfl, .inl ⟨_, Eq.trans ?_ unchanged⟩⟩
      unfold step
      rw [running]

/-- An event hands the processor over or suspends nothing. -/
theorem handsOver_or_proceeds (settled : c.kernel.Settled) (e : Event) :
    (∃ h, HandsOver c e h) ∨ Proceeds c (c.step e).1 := by
  rcases step_cases settled e with hands | ⟨_, ⟨depth, same⟩ | ⟨_, proceeds⟩⟩
  · exact .inl hands
  · exact .inr (same ▸ Proceeds.atDepth settled depth)
  · exact .inr proceeds

end Computer

end TerminalKernel

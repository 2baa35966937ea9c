import TerminalKernel.Proofs.BlockedReads
import TerminalKernel.Proofs.Requests

/-!
# The status of a child

A call that starts a program stops inside the kernel, and its flow rests on the kernel stack of its
process until the program ends (`Computer.Awaits`). No event that lets the program live touches that
flow, so that the event that ends the program returns its status to the caller, whose registers are
as they were (`Awaits.returns`). Of every process that was started by another one the caller waits
in this way (`Attended`).
-/

namespace TerminalKernel

/-! ## Parents and owners -/

theorem Lineage.parent_mem_tail {parent? : ProcessId → Option ProcessId} {line : List ProcessId}
    (lineage : Lineage parent? line) {pid parent : ProcessId} (inside : pid ∈ line)
    (link : parent? pid = some parent) (child : parent ≠ pid) : parent ∈ line.tail := by
  induction lineage with
  | root self =>
    rw [List.mem_singleton] at inside
    rw [← inside, link, Option.some_inj] at self
    exact absurd self child
  | @child first next rest first_link _ _ ih =>
    rcases List.mem_cons.mp inside with rfl | behind
    · rw [link, Option.some_inj] at first_link
      rw [first_link]
      exact List.mem_cons_self
    · exact List.mem_of_mem_tail (ih behind)

namespace Roster

variable {r r' : Roster} {t : TerminalId} {pid : ProcessId} {l : Link} {transfer : Transfer}

theorem Sound.owner_ne_parent (sound : Sound r) (live : r.link? pid = some l)
    (child : l.parent ≠ pid) (t : TerminalId) : (r.seat t).owner ≠ some l.parent := by
  intro owner
  obtain ⟨rest, stacked⟩ := sound.line_of_owner owner
  have here : l.terminal = t := (sound.parent_on live).unique (sound.on_of_owner owner)
  have inside : pid ∈ l.parent :: rest := (stacked.mem pid).mpr ⟨l, live, here⟩
  have link : r.parent? pid = some l.parent := by rw [parent?, live, Option.map_some]
  have behind := (stacked.lineage (List.cons_ne_nil _ _)).parent_mem_tail inside link child
  exact (List.nodup_cons.mp stacked.nodup).1 behind

/-- A process lives on through a step that leaves its place in the tree and its saved caller as they
are. -/
structure LivesOn (r : Roster) (transfer : Transfer) (r' : Roster) (pid : ProcessId) (l : Link) :
    Prop where
  link : r'.link? pid = some l
  caller : r'.saved? (.parent pid) = r.saved? (.parent pid)
  slot : transfer.saveSlot? ≠ some (.parent pid)

theorem LivesOn.park (lives : LivesOn r transfer r' pid l) (saved : Option SavedContext) :
    (r'.park transfer saved).link? pid = some l ∧
      (r'.park transfer saved).saved? (.parent pid) = r.saved? (.parent pid) := by
  rw [link?_park, saved?_park, if_neg lives.slot]
  exact ⟨lives.link, lives.caller⟩

theorem LivesOn.begin {launch : Launch} {slot : SaveSlot} (lives : LivesOn r .stay r' pid l)
    (free : r'.link? launch.pid = none) (save : launch.save = slot)
    (named : slot = .parent launch.pid ∨ ∃ u, slot = .terminal u) :
    LivesOn r (.launch launch) (r'.begin t launch.pid) pid l := by
  have other : pid ≠ launch.pid := by
    intro same
    rw [← same, lives.link] at free
    cases free
  refine ⟨?_, ?_, ?_⟩
  · rw [link?_begin, if_neg other, lives.link]
  · rw [saved?_begin, if_neg (by simpa using other), lives.caller]
  · rw [Transfer.saveSlot?, save, Ne, Option.some_inj]
    rcases named with rfl | ⟨u, rfl⟩
    · simpa using Ne.symm other
    · simp

theorem LivesOn.finish (live : r.link? pid = some l) {ended : ProcessId} (other : pid ≠ ended)
    (t : TerminalId) : LivesOn r .stay (r.finish ended t) pid l := by
  refine ⟨?_, ?_, by simp [Transfer.saveSlot?]⟩
  · rw [link?_finish, if_neg other, live]
  · rw [saved?_finish, if_neg (by simpa using other)]

/-- A process lives on through a step, unless it is the one that runs and the step is more than an
interruption. -/
theorem Step.livesOn_or_current {current? : Option ProcessId} (step : Step r current? transfer r')
    (live : r.link? pid = some l) :
    LivesOn r transfer r' pid l ∨ current? = some pid ∧ transfer ≠ .stay ∧
      ∀ t, transfer.saveSlot? ≠ some (.terminal t) := by
  have here : LivesOn r .stay r pid l := ⟨live, rfl, by simp [Transfer.saveSlot?]⟩
  cases step with
  | stay => exact .inl here
  | turn _ _ _ _ _ => exact .inl ⟨live, rfl, by simp [Transfer.saveSlot?]⟩
  | execute _ free save => exact .inl (here.begin free save (.inl rfl))
  | @fresh t _ _ _ free save =>
    have begun := here.begin (t := t) free save (.inr ⟨_, rfl⟩)
    exact .inl ⟨begun.link, begun.caller, begun.slot⟩
  | @resume current p _ _ running _ _ _ _ =>
    by_cases same : pid = current
    · exact .inr ⟨same ▸ running, by simp, by simp [Transfer.saveSlot?]⟩
    · have finished := LivesOn.finish live same p.terminal
      exact .inl ⟨finished.link, finished.caller, by simp [Transfer.saveSlot?]⟩
  | @relaunch current p launch running _ _ _ free save =>
    by_cases same : pid = current
    · exact .inr ⟨same ▸ running, by simp, by simp [Transfer.saveSlot?, save]⟩
    · exact .inl ((LivesOn.finish live same p.terminal).begin free save (.inl rfl))
  | @idle current p running _ _ =>
    by_cases same : pid = current
    · exact .inr ⟨same ▸ running, by simp, by simp [Transfer.saveSlot?]⟩
    · have finished := LivesOn.finish live same p.terminal
      exact .inl ⟨finished.link, finished.caller, by simp [Transfer.saveSlot?]⟩

end Roster

namespace Kernel

variable {k k' : Kernel} {pid : ProcessId} {p : ProcessRecord TerminalId} {status : UInt8}
  {transfer : Transfer} {l : Link}

/-! ## Ends -/

/-- A process that ends is live afterwards only if its number is given to a new one. -/
theorem launches_of_halt (running : k.current = .ok (pid, p))
    (ended : k.halt status = (k', .ok transfer)) (live : k'.roster.link? pid = some l) :
    transfer.Launches pid := by
  obtain ⟨k₁, finished, halted⟩ := halt_eq running status
  have gone : k₁.roster.link? pid = none := by
    rw [finished, Roster.link?_finish, if_pos rfl]
  rw [halted] at ended
  split at ended
  · rcases k₁.relaunch_spec p.terminal with
      ⟨launch, launched, _, _, _, after⟩ | ⟨_, after⟩
    · cases ended
      rw [after, Roster.link?_begin] at live
      split at live
      · rename_i same
        exact ⟨launch, launched, same.symm⟩
      · rw [gone] at live
        cases live
    · cases ended
      rw [after] at live
      exact absurd (gone.symm.trans live) (by simp)
  · cases ended
    rw [roster_giveBack] at live
    exact absurd (gone.symm.trans live) (by simp)

theorem launch_of_execute {line : List UInt8} (other : (Command.parse line).name ≠ Command.exitName)
    (started : k.execute line = (k', .ok transfer)) :
    ∃ l, transfer = .launch l ∧ k.roster.link? l.pid = none ∧ l.save = .parent l.pid ∧
      k'.roster = k.roster.begin k.scheduled l.pid := by
  have starts := k.spawn_starts k.scheduled (Command.parse line).name (Command.parse line).args none
  rw [Kernel.execute] at started
  dsimp only at started
  rw [if_neg other] at started
  generalize k.spawn k.scheduled (Command.parse line).name (Command.parse line).args none = spawned
    at starts started
  obtain ⟨k₁, cause | l⟩ := spawned
  · cases started
  · cases started
    obtain ⟨_, free, save, after⟩ := starts
    exact ⟨l, rfl, free, save, after⟩

end Kernel

namespace Computer

open Kernel

/-! ## Events that end a program -/

/-- The event asks for the end of the program that runs, with a status. -/
inductive Exits (c : Computer) (e : Event) : UInt8 → Prop
  /-- The low eight bits of what the program passes to halt. -/
  | halt {r : Registers} (call : c.call? e = some r)
      (asked : Syscall.ofNumber? r.rax.toNat = some .halt) : Exits c e r.rdi.toUInt8
  /-- The command to exit. -/
  | exit {r : Registers} {line : List UInt8} (call : c.call? e = some r)
      (asked : Syscall.ofNumber? r.rax.toNat = some .execute)
      (given : c.kernel.userText? r.rdi.toNat commandLimit = some line)
      (named : (Command.parse line).name = Command.exitName) : Exits c e 0
  | fault {r : Registers} {f : Fault} (raised : c.fault? e = some (r, f)) :
      Exits c e exceptionStatus

/-- The event ends process `pid` with a status. -/
def Ends (c : Computer) (e : Event) (pid : ProcessId) (status : UInt8) : Prop :=
  c.Exits e status ∧ ∃ p, c.kernel.current = .ok (pid, p)

/-- None of the events ends process `pid`. -/
def Spares (c : Computer) (pid : ProcessId) : List Event → Prop
  | [] => True
  | e :: earlier => c.Spares pid earlier ∧ ∀ status, ¬ (c.afterAll earlier).Ends e pid status

variable {c c' : Computer} {e : Event} {h : Handover} {pid : ProcessId} {r : Registers}
  {status : UInt8}

/-- A handover interrupts the flow that has the processor, ends the program that runs, or starts
another one from a call of it. -/
theorem HandsOver.kinds (hands : c.HandsOver e h) (settled : c.kernel.Settled) :
    (h.transfer = .stay ∨ h.transfer.saveSlot? = some (.terminal c.kernel.scheduled)) ∨
    (∃ status effects, c.Exits e status ∧
      (c.kernel.emit effects).halt status = (h.decided.kernel, .ok h.transfer)) ∨
    ∃ r l, c.call? e = some r ∧ h.flow = .calling r ∧ h.transfer = .launch l ∧
      c.kernel.roster.link? l.pid = none ∧ l.save = .parent l.pid ∧
      h.decided.kernel.roster = c.kernel.roster.begin c.kernel.scheduled l.pid := by
  cases hands with
  | @halt _ r _ _ call asked ended =>
    refine .inr (.inl ⟨r.rdi.toUInt8, [], .halt call asked, ?_⟩)
    rw [emit_nil]
    exact ended
  | @execute _ r line k transfer call asked given started =>
    by_cases named : (Command.parse line).name = Command.exitName
    · refine .inr (.inl ⟨0, [], .exit call asked given named, ?_⟩)
      rw [Kernel.execute, if_pos named] at started
      rw [emit_nil]
      exact started
    · obtain ⟨l, launches, free, save, after⟩ := launch_of_execute named started
      exact .inr (.inr ⟨r, l, call, rfl, launches, free, save, after⟩)
  | @fault _ r f _ _ raised ended =>
    exact .inr (.inl ⟨exceptionStatus, faultReport r f, .fault raised, ended⟩)
  | timer =>
    have done := Interrupted.emit settled (done timerVector)
    exact .inl (Interrupted.tick (settled.stay done.decides)).preempts
  | @key byte k keyboard transfer handled =>
    have queueing := Interrupted.beginKey settled byte
    have drained := Interrupted.drain (settled.stay queueing.decides) (c.beginKey byte).keyboard
      queuePlaces
    rw [handled] at drained
    exact .inl (queueing.trans drained).preempts
  | clock => exact .inl (.inl rfl)

/-! ## Callers that wait -/

/-- Process `pid` was started by another one, whose flow rests in the call with the registers `r`. -/
def Awaits (c : Computer) (pid : ProcessId) (r : Registers) : Prop :=
  ∃ l context, c.kernel.roster.link? pid = some l ∧ l.parent ≠ pid ∧
    c.kernel.roster.saved? (.parent pid) = some context ∧
    c.suspended.lookup context.rsp.toNat = some (.calling r)

/-- For every process that was started by another one a caller waits. -/
def Attended (c : Computer) : Prop :=
  ∀ pid l, c.kernel.roster.link? pid = some l → l.parent ≠ pid → ∃ r, c.Awaits pid r

theorem current_of_owner (settled : c.kernel.Settled)
    (owner : (c.kernel.session c.kernel.scheduled).owner = some pid) :
    ∃ p, c.kernel.current = .ok (pid, p) := by
  obtain ⟨p, running, _⟩ := settled.current_of_runs (runs_of_owner settled.sound owner)
  exact ⟨p, running⟩

theorem HandsOver.livesOn (hands : c.HandsOver e h) (settled : c.kernel.Settled) {l : Link}
    (live : c.kernel.roster.link? pid = some l) (spared : ∀ status, ¬ c.Ends e pid status) :
    Roster.LivesOn c.kernel.roster h.transfer h.decided.kernel.roster pid l := by
  rcases (hands.decides settled).step.livesOn_or_current live with lives | ⟨owner, moves, elsewhere⟩
  · exact lives
  · rcases hands.kinds settled with
      preempts | ⟨status, _, exits, _⟩ | ⟨_, l', _, _, launches, free, save, after⟩
    · rcases preempts with stays | slot
      · exact absurd stays moves
      · exact absurd slot (elsewhere _)
    · exact absurd ⟨exits, current_of_owner settled owner⟩ (spared status)
    · have here : Roster.LivesOn c.kernel.roster .stay c.kernel.roster pid l :=
        ⟨live, rfl, by simp [Transfer.saveSlot?]⟩
      rw [after, launches]
      exact here.begin free save (.inl rfl)

/-- A flow that rests in a call is not touched by a handover. -/
theorem HandsOver.lookup_caller (hands : c.HandsOver e h) (settled : c.kernel.Settled) {l : Link}
    (live : c.kernel.roster.link? pid = some l) (child : l.parent ≠ pid) {context : SavedContext}
    (saved : c.kernel.roster.saved? (.parent pid) = some context) :
    h.parked.suspended.lookup context.rsp.toNat = c.suspended.lookup context.rsp.toNat := by
  obtain ⟨_, parent, _⟩ := settled.sound.parent_on live
  have rests : c.kernel.processes.arena.holder? context.rsp.toNat = some l.parent :=
    settled.threaded.caller pid l live child context saved
  refine lookup_parked_of_ne hands fun same => ?_
  rw [same, hands.stackPointer] at rests
  exact settled.sound.owner_ne_parent live child _ (settled.owner_of_holder? parent rests)

theorem Awaits.proceeds (awaits : c.Awaits pid r) (proceeds : Proceeds c c') : c'.Awaits pid r := by
  obtain ⟨l, context, live, child, saved, waiting⟩ := awaits
  rw [← proceeds.roster_eq] at live saved
  rw [← proceeds.suspended] at waiting
  exact ⟨l, context, live, child, saved, waiting⟩

theorem Awaits.parked (awaits : c.Awaits pid r) (settled : c.kernel.Settled)
    (hands : c.HandsOver e h) (lives : ∀ l, c.kernel.roster.link? pid = some l →
      Roster.LivesOn c.kernel.roster h.transfer h.decided.kernel.roster pid l) :
    h.parked.Awaits pid r := by
  obtain ⟨l, context, live, child, saved, waiting⟩ := awaits
  rw [← hands.lookup_caller settled live child saved] at waiting
  obtain ⟨link, caller⟩ := (lives l live).park
    (some (.suspended (UInt64.ofNat h.stackPointer) resumePoint))
  rw [← h.roster_parked] at link caller
  exact ⟨l, context, link, child, caller.trans saved, waiting⟩

theorem Awaits.step (awaits : c.Awaits pid r) (settled : c.kernel.Settled)
    (spared : ∀ status, ¬ c.Ends e pid status) : (c.step e).1.Awaits pid r := by
  rcases handsOver_or_proceeds settled e with ⟨h, hands⟩ | proceeds
  · have kept := awaits.parked settled hands fun l live => hands.livesOn settled live spared
    rw [hands.after_eq]
    exact kept.proceeds (h.proceeds (hands.settled_parked settled))
  · exact awaits.proceeds proceeds

theorem Awaits.afterAll (awaits : c.Awaits pid r) (settled : c.kernel.Settled) {events : List Event}
    (spared : c.Spares pid events) : (c.afterAll events).Awaits pid r := by
  induction events with
  | nil => exact awaits
  | cons e earlier ih =>
    exact (ih spared.1).step (settled_afterAll settled earlier) spared.2

/-- A process that is launched by another one is awaited by the call that launched it. -/
theorem HandsOver.awaits (hands : c.HandsOver e h) (settled : c.kernel.Settled) {l : Link}
    (launches : h.transfer.Launches pid) (live : h.decided.kernel.roster.link? pid = some l)
    (child : l.parent ≠ pid) :
    ∃ r, c.call? e = some r ∧ (c.step e).1.Awaits pid r := by
  have decides := hands.decides settled
  obtain ⟨owner, slot, caller⟩ := settled.sound.launched_child decides.step launches live child
  rcases hands.kinds settled with preempts | ⟨status, effects, _, ended⟩ | ⟨r, _, call, flow, _⟩
  · rcases preempts with stays | elsewhere
    · rw [stays] at slot
      cases slot
    · rw [slot] at elsewhere
      cases elsewhere
  · -- The parent is live, and a process that ended is live only if it is the one launched.
    obtain ⟨_, parent, _⟩ := (settled.sound.step decides.step).parent_on live
    obtain ⟨p, running⟩ := current_of_owner settled owner
    have running : (c.kernel.emit effects).current = .ok (l.parent, p) := running
    exact absurd ((launches_of_halt running ended parent).unique launches) child
  · refine ⟨r, call, ?_⟩
    have parked := hands.settled_parked settled
    have place : (UInt64.ofNat h.stackPointer).toNat = h.stackPointer := by
      rw [hands.stackPointer, settled.toNat_stackPointer owner]
    have resting := lookup_parked_self (h := h) (by rw [slot]; rfl)
    rw [flow, ← place] at resting
    rw [hands.after_eq]
    refine Awaits.proceeds ⟨l, .suspended (UInt64.ofNat h.stackPointer) resumePoint, ?_, child, ?_,
      resting⟩ (h.proceeds parked)
    · rw [h.roster_parked, Roster.link?_park, live]
    · rw [h.roster_parked, Roster.saved?_park, if_pos slot, caller, Option.map_some,
        Option.getD_some]

theorem Attended.proceeds (attended : c.Attended) (proceeds : Proceeds c c') : c'.Attended := by
  intro pid l live child
  rw [proceeds.roster_eq] at live
  obtain ⟨r, awaits⟩ := attended pid l live child
  exact ⟨r, awaits.proceeds proceeds⟩

theorem Attended.step (attended : c.Attended) (settled : c.kernel.Settled) (e : Event) :
    (c.step e).1.Attended := by
  rcases handsOver_or_proceeds settled e with ⟨h, hands⟩ | proceeds
  · have parked := hands.settled_parked settled
    have after := (h.proceeds parked).roster_eq
    intro pid l live child
    rw [hands.after_eq, after, h.roster_parked, Roster.link?_park] at live
    by_cases launches : h.transfer.Launches pid
    · obtain ⟨r, _, awaits⟩ := hands.awaits settled launches live child
      exact ⟨r, awaits⟩
    · obtain ⟨was, caller⟩ :=
        ((hands.decides settled).step.launched_or_kept live).resolve_left launches
      obtain ⟨r, awaits⟩ := attended pid l was child
      have lives : Roster.LivesOn c.kernel.roster h.transfer h.decided.kernel.roster pid l :=
        ⟨live, caller, fun slot => launches ((hands.decides settled).step.launches_of_slot slot)⟩
      have kept := awaits.parked settled hands fun l' was' => by
        obtain rfl : l' = l := Option.some_inj.mp (was'.symm.trans was)
        exact lives
      rw [hands.after_eq]
      exact ⟨r, kept.proceeds (h.proceeds parked)⟩
  · exact attended.proceeds proceeds

theorem attended_afterAll (attended : c.Attended) (settled : c.kernel.Settled)
    (events : List Event) : (c.afterAll events).Attended := by
  induction events with
  | nil => exact attended
  | cons e earlier ih => exact ih.step (settled_afterAll settled earlier) e

/-! ## The status that a caller sees -/

/-- The flow that is resumed when a process on top of another one ends is its caller's. -/
theorem wake_of_awaits (awaits : c.Awaits pid r)
    {p : ProcessRecord TerminalId} (live : c.kernel.processes.process? pid = some p) :
    p.parent ≠ pid ∧ c.suspended.lookup p.callerContext.rsp.toNat = some (.calling r) := by
  obtain ⟨l, context, link, child, caller, waiting⟩ := awaits
  have same : l = p.link := by
    simp only [roster, live, Option.map_some, Option.some_inj] at link
    exact link.symm
  have saved : c.kernel.roster.saved? (.parent pid) = some p.callerContext := by
    simp only [roster, savedContext?, live, Option.map_some]
  obtain rfl : context = p.callerContext := Option.some_inj.mp (caller.symm.trans saved)
  rw [same] at child
  exact ⟨child, waiting⟩

theorem halt_of_current {k : Kernel} {p : ProcessRecord TerminalId}
    (running : k.current = .ok (pid, p)) (status : UInt8) :
    ∃ k' transfer, k.halt status = (k', .ok transfer) := by
  obtain ⟨k₁, _, halted⟩ := halt_eq running status
  split at halted
  · exact ⟨_, _, halted⟩
  · exact ⟨_, _, halted⟩

theorem Ends.handsOver (ends : c.Ends e pid status) : ∃ h effects, c.HandsOver e h ∧
    (c.kernel.emit effects).halt status = (h.decided.kernel, .ok h.transfer) := by
  obtain ⟨exits, p, running⟩ := ends
  have quiet {k : Kernel} {transfer : Transfer} (ended : c.kernel.halt status = (k, .ok transfer)) :
      (c.kernel.emit []).halt status = (k, .ok transfer) := by
    rw [emit_nil]
    exact ended
  obtain ⟨k, transfer, ended⟩ := halt_of_current running status
  cases exits with
  | halt call asked => exact ⟨_, [], .halt call asked ended, quiet ended⟩
  | @exit r line call asked given named =>
    have started : c.kernel.execute line = (k, .ok transfer) := by
      rw [Kernel.execute, if_pos named, ended]
    exact ⟨_, [], .execute call asked given started, quiet ended⟩
  | @fault r f raised =>
    have running : (c.kernel.emit (faultReport r f)).current = .ok (pid, p) := running
    obtain ⟨k, transfer, ended⟩ := halt_of_current running exceptionStatus
    exact ⟨_, faultReport r f, .fault raised ended, ended⟩

/-- The event that ends a process lets its caller go on with the status, and nothing else happens
once the kernel has decided so. -/
theorem Awaits.returns (awaits : c.Awaits pid r) (settled : c.kernel.Settled)
    (ends : c.Ends e pid status) :
    (c.step e).1.running = .user { r with rax := status.toUInt64 } := by
  obtain ⟨h, effects, hands, ended⟩ := ends.handsOver
  obtain ⟨_, p, running⟩ := ends
  obtain ⟨child, waiting⟩ := wake_of_awaits awaits (current_eq_ok running).2
  have reported := settled.stay (Interrupted.emit settled effects).decides
  have running : (c.kernel.emit effects).current = .ok (pid, p) := running
  obtain ⟨k', resumes⟩ := halt_of_child reported.sound reported.onStack running child status
  rw [resumes] at ended
  obtain ⟨-, transfer⟩ := Prod.mk.inj ended
  have resumed : h.transfer = .resume p.callerContext status := (Except.ok.inj transfer).symm
  rw [hands.after_eq, Handover.after, resumed, perform, wake, hands.suspended, waiting]
  rfl

end Computer

end TerminalKernel

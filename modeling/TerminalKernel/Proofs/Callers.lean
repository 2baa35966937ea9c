import TerminalKernel.Proofs.ChildStatus
import TerminalKernel.Proofs.SlotMemory

/-!
# Whenever a call can be made

What a call may rely on in every computer that events lead to, besides a kernel that is settled:
both windows of the running process are set for it (`serves_reached`), and for every process that
was started by another one a caller waits (`attended_reached`). The video window is left alone or
mapped anew by whatever the kernel does between two events.
-/

namespace TerminalKernel

namespace Viewport

variable {v v' v'' : Viewport}

theorem Step.refl (v : Viewport) : v.Step v := .inl rfl

theorem Step.trans (first : v.Step v') (second : v'.Step v'') : v.Step v'' := by
  rcases second with rfl | ⟨shown, pages⟩
  · exact first
  · exact .inr ⟨shown, pages.trans first.pages⟩

end Viewport

namespace Kernel

variable {k k' : Kernel} {r : Registers} {s : Syscall} {a : Action} {transfer : Transfer}
  {address length : Nat}

/-- Memory that is accepted stays so. -/
theorem acceptsRange_step (step : k.viewport.Step k'.viewport)
    (accepted : k.acceptsRange address length = true) : k'.acceptsRange address length = true := by
  rcases step with same | ⟨shown, _⟩
  · rw [acceptsRange_congr same]
    exact accepted
  · rw [acceptsRange, UserMemory.accepts_iff] at accepted ⊢
    exact accepted.imp id fun inside => ⟨videoMapped_of_open shown, inside.2⟩

theorem viewport_park (k : Kernel) (transfer : Transfer) (context : SavedContext) :
    (k.park transfer context).viewport = k.viewport := by
  obtain ⟨_, _, same⟩ := k.park_eq transfer context
  rw [same]
  rfl

theorem Settled.viewport_act (settled : k.Settled) (a : Action) :
    k.viewport.Step (k.act a).1.viewport :=
  Kernel.viewport_act settled.sound settled.onStack a

theorem Settled.viewport_of_act (settled : k.Settled) (acts : k.act a = (k', transfer)) :
    k.viewport.Step k'.viewport := by
  have step := settled.viewport_act a
  rwa [acts] at step

theorem root_of_start (none : ∀ pid, k.roster.link? pid = .none)
    (unused : k.roster.parentFor .first = .none) {pid : ProcessId} {l : Link}
    (live : (k.act .start).1.roster.link? pid = some l) : l.parent = pid := by
  have starts := k.spawn_starts .first shellName [] (some .first)
  rw [act, fst_ofCall, start] at live
  generalize k.spawn .first shellName [] (some .first) = spawned at starts live
  obtain ⟨k', cause | launch⟩ := spawned
  · have same : k'.roster = k.roster := starts
    dsimp only at live
    rw [same, none] at live
    cases live
  · obtain ⟨_, _, _, after⟩ := starts
    dsimp only at live
    rw [after, Roster.link?_begin, unused, none] at live
    split at live
    · rename_i same
      cases live
      exact same.symm
    · cases live

theorem viewport_served (settled : k.Settled) : k.viewport.Step (k.served r s a).viewport := by
  rw [served, viewport_storeUser]
  exact settled.viewport_act a

end Kernel

namespace Computer

open Kernel

variable {c : Computer} {k : Kernel} {r : Registers} {a : Action} {transfer : Transfer} {e : Event}
  {h : Handover}

/-! ## The video window between events -/

theorem viewport_tryRead (settled : c.kernel.Settled) (r : Registers) (fd address room : Nat) :
    c.kernel.viewport.Step (c.tryRead r fd address room).kernel.viewport := by
  rw [kernel_tryRead, viewport_storeUser]
  exact settled.viewport_act (.read fd (some room))

theorem viewport_retry (settled : c.kernel.Settled) :
    c.kernel.viewport.Step c.retry.kernel.viewport := by
  unfold retry
  split
  · exact viewport_tryRead settled _ _ _ _
  · exact .refl _

theorem kernel_wake (c : Computer) (context : SavedContext) (status : UInt8) :
    (c.wake context status).kernel = c.kernel := by
  unfold wake
  split <;> rfl

theorem kernel_after (h : Handover) : h.after.kernel = h.parked.kernel := by
  obtain ⟨c, stackPointer, flow, transfer⟩ := h
  cases transfer with
  | stay | launch _ | idle => rfl
  | resume context status => exact c.kernel_wake context status
  | switch source target => exact kernel_wake _ (c.kernel.session target).context 0

theorem viewport_drain (settled : k.Settled) (keyboard : Keyboard) (limit : Nat) :
    k.viewport.Step (drain k keyboard limit).1.viewport := by
  induction limit generalizing k keyboard with
  | zero => exact .refl _
  | succ limit ih =>
    unfold drain
    generalize keyboard.read = read
    obtain ⟨keyboard, _ | first⟩ := read
    · exact .refl _
    · have handled := (Interrupted.key settled first).decides
      have step := k.viewport_handleKey first
      dsimp only
      generalize k.handleKey first = result at handled step ⊢
      obtain ⟨k', transfer⟩ := result
      cases transfer with
      | stay => exact step.trans (ih (settled.stay handled) keyboard)
      | launch _ | resume _ _ | switch _ _ | idle => exact step

theorem HandsOver.viewport_decided (hands : c.HandsOver e h) (settled : c.kernel.Settled) :
    c.kernel.viewport.Step h.decided.kernel.viewport := by
  cases hands with
  | @halt _ r k transfer _ _ ended =>
    have acts : c.kernel.act (.halt r.rdi.toUInt8) = (k, transfer) := congrArg ofCall ended
    exact settled.viewport_of_act acts
  | @execute _ _ line k transfer _ _ _ started =>
    have acts : c.kernel.act (.execute line) = (k, transfer) := congrArg ofCall started
    exact settled.viewport_of_act acts
  | @fault _ r f k transfer _ ended =>
    have reported := settled.stay (Interrupted.emit settled (faultReport r f)).decides
    have acts : (c.kernel.emit (faultReport r f)).act (.halt exceptionStatus) = (k, transfer) :=
      congrArg ofCall ended
    exact reported.viewport_of_act acts
  | timer => exact (c.kernel.emit (done timerVector)).viewport_tick
  | @key byte k keyboard transfer handled =>
    have queueing := settled.stay (Interrupted.beginKey settled byte).decides
    have drained := viewport_drain queueing (c.beginKey byte).keyboard queuePlaces
    obtain ⟨effects, queued, begun⟩ := c.beginKey_eq byte
    rw [handled, begun] at drained
    exact drained
  | clock => exact .refl _

theorem HandsOver.viewport (hands : c.HandsOver e h) (settled : c.kernel.Settled) :
    c.kernel.viewport.Step (c.step e).1.kernel.viewport := by
  rw [hands.after_eq, kernel_after, h.kernel_parked, viewport_park]
  exact hands.viewport_decided settled

/-- A call that ends or starts a program hands the processor over. -/
theorem handsOver_of_request {s : Syscall} (call : c.call? e = some r)
    (asked : Syscall.ofNumber? r.rax.toNat = some s) (request : c.kernel.request? r s = some a)
    (hands : a.handsOver = true) (succeeds : c.kernel.failure? a = none)
    (acts : c.kernel.act a = (k, transfer)) :
    c.HandsOver e ⟨c.withKernel k, c.kernel.stackPointer, .calling r, transfer⟩ := by
  rcases loads_of_handsOver request hands with rfl | rfl
  · cases request
    exact .halt call asked (eq_ok_of_ofCall acts succeeds)
  · obtain ⟨line, given, rfl⟩ := Option.map_eq_some_iff.mp request
    exact .execute call asked given (eq_ok_of_ofCall acts succeeds)

theorem viewport_call (settled : c.kernel.Settled) (call : c.call? e = some r) :
    c.kernel.viewport.Step (c.step e).1.kernel.viewport := by
  have ends := c.dispatches r
  rw [← step_of_call call] at ends
  generalize dispatched : (c.step e).1 = c' at ends ⊢
  cases ends with
  | unknown _ | outside _ _ _ | signal _ _ => exact .refl _
  | @rejected line k cause _ _ rejected =>
    have acts : c.kernel.act (.execute line) = (k, .stay) := congrArg ofCall rejected
    have step : c.kernel.viewport.Step k.viewport := settled.viewport_of_act acts
    exact step
  | failed _ _ _ _ _ | answered _ _ _ _ | waits _ _ _ => exact viewport_served settled
  | handsOver asked request hands succeeds acts =>
    rw [← dispatched]
    exact (handsOver_of_request call asked request hands succeeds acts).viewport settled

theorem viewport_fault (settled : c.kernel.Settled) {f : Fault} (raised : c.fault? e = some (r, f)) :
    c.kernel.viewport.Step (c.step e).1.kernel.viewport := by
  cases ended : (c.kernel.emit (faultReport r f)).halt exceptionStatus with
  | mk k result =>
    cases result with
    | ok transfer => exact (HandsOver.fault raised ended).viewport settled
    | error cause =>
      have reported := settled.stay (Interrupted.emit settled (faultReport r f)).decides
      have acts : (c.kernel.emit (faultReport r f)).act (.halt exceptionStatus) = (k, .stay) :=
        congrArg ofCall ended
      have step : c.kernel.viewport.Step k.viewport := reported.viewport_of_act acts
      have ended : (c.emit (faultReport r f)).kernel.halt exceptionStatus = _ := ended
      unfold faultReport at ended
      rw [step_of_fault raised, raise]
      simp only [ended]
      exact step

/-- Every event leaves the window alone or maps it anew. -/
theorem viewport_step (settled : c.kernel.Settled) (e : Event) :
    c.kernel.viewport.Step (c.step e).1.kernel.viewport := by
  cases running : c.running with
  | user r =>
    cases e with
    | timer => exact HandsOver.timer.viewport settled
    | key byte => exact (HandsOver.key rfl).viewport settled
    | clock => exact HandsOver.clock.viewport settled
    | syscall number arg0 arg1 arg2 =>
      exact viewport_call settled (by simp only [call?, running]; rfl)
    | interrupt vector =>
      by_cases gate : vector = syscallVector
      · exact viewport_call settled (by simp only [call?, running, if_pos gate]; rfl)
      · exact viewport_fault settled (by simp only [fault?, running, if_neg gate]; rfl)
    | fault f => exact viewport_fault settled (by simp only [fault?, running]; rfl)
    | put address bytes =>
      rw [step_of_user running, userEvent]
      split
      · exact .inl (c.kernel.viewport_storeUser address bytes)
      · exact .refl _
    | get address count =>
      rw [step_of_user running, userEvent]
      split <;> exact .refl _
    | retry =>
      rw [step_retry]
      exact viewport_retry settled
    | deepen depth =>
      rw [step_deepen]
      exact .refl _
  | reading _ _ _ _ | woken _ _ _ _ | calling _ | idle =>
    cases e with
    | timer => exact HandsOver.timer.viewport settled
    | key byte => exact (HandsOver.key rfl).viewport settled
    | clock => exact HandsOver.clock.viewport settled
    | retry =>
      rw [step_retry]
      exact viewport_retry settled
    | deepen depth =>
      rw [step_deepen]
      exact .refl _
    | syscall _ _ _ _ | interrupt _ | fault _ | put _ _ | get _ _ =>
      unfold step
      rw [running]
      exact .refl _

theorem viewport_afterAll (settled : c.kernel.Settled) (events : List Event) :
    c.kernel.viewport.Step (c.afterAll events).kernel.viewport := by
  induction events with
  | nil => exact .refl _
  | cons e earlier ih => exact ih.trans (viewport_step (settled_afterAll settled earlier) e)

/-! ## Boot -/

variable {files : FileSystem} {arena : Arena} {storage : Kernel.Storage} {pid : ProcessId}

theorem shown_boot (wide : arena.top ≤ UInt64.size) :
    (boot files arena storage).kernel.viewport.Closed ∨
      (boot files arena storage).kernel.viewport.Open := by
  have only := Kernel.onlyDevices_startKernel files arena storage
  have settled := (Kernel.settled_new files storage wide).onlyDevices only
  have closed : (startKernel files arena storage).viewport.Closed := by
    obtain ⟨_, _, _, _, _, same⟩ := only
    rw [same]
    refine ⟨?_, ?_⟩
    · simp [Kernel.viewport, Kernel.new, AddressSpace.new]
    · simp [Kernel.viewport, Kernel.new, AddressSpace.new]
  have started {k : Kernel} {transfer : Transfer}
      (acts : (startKernel files arena storage).act .start = (k, transfer)) :
      k.viewport.Closed ∨ k.viewport.Open :=
    (settled.viewport_of_act acts).closed_or_open (.inl closed)
  rcases boot_eq files arena storage with ⟨k, cause, acts, boots⟩ | ⟨k, launch, acts, boots⟩
  · have logged : (boot files arena storage).kernel.viewport = k.viewport := by
      rw [boots]
      rfl
    rw [logged]
    exact started acts
  · have parked : (boot files arena storage).kernel.viewport = k.viewport := by
      rw [boots]
      exact viewport_park k _ _
    rw [parked]
    exact started acts

theorem attended_boot (files : FileSystem) (arena : Arena) (storage : Kernel.Storage) :
    (boot files arena storage).Attended := by
  have only := Kernel.onlyDevices_startKernel files arena storage
  have none : ∀ pid, (startKernel files arena storage).roster.link? pid = .none := by
    intro pid
    rw [only.roster]
    simp [roster, Kernel.new]
  have unused : (startKernel files arena storage).roster.parentFor .first = .none := by
    rw [only.roster]
    simp [Roster.parentFor, roster, session, Kernel.new, Session.seat, Session.idle]
  intro pid l live child
  refine absurd (Kernel.root_of_start none unused ?_) child
  rcases boot_eq files arena storage with ⟨k, cause, acts, boots⟩ | ⟨k, launch, acts, boots⟩
  · rw [boots] at live
    rw [acts]
    exact live
  · rw [boots] at live
    have parked : (k.park (.launch launch) _).roster.link? pid = some l := live
    rw [roster_park, Roster.link?_park] at parked
    rw [acts]
    exact parked

/-! ## Reachable computers -/

/-- Both windows of the process that runs are set for it. -/
theorem serves_reached (wide : arena.top ≤ UInt64.size) {events : List Event}
    (reached : c = (boot files arena storage).afterAll events)
    {p : ProcessRecord TerminalId} (running : c.kernel.current = .ok (pid, p)) :
    c.kernel.Serves pid where
  sound := (reached ▸ settled_reached wide events).sound
  owner := by
    have settled : c.kernel.Settled := reached ▸ settled_reached wide events
    exact (Kernel.owner_of_current settled.sound settled.onStack running).1
  shown := by
    rw [reached]
    exact (viewport_afterAll (settled_boot wide) events).closed_or_open
      (shown_boot wide)

theorem attended_reached (wide : arena.top ≤ UInt64.size) (events : List Event) :
    ((boot files arena storage).afterAll events).Attended :=
  attended_afterAll (attended_boot files arena storage) (settled_boot wide) events

end Computer

end TerminalKernel

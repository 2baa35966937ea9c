import TerminalKernel.Computer.Boot
import TerminalKernel.Proofs.Handovers

/-!
# Reachable computers

Whatever happens to a computer after it was booted, its kernel is settled between two events
(`Computer.settled_reached`). Each event keeps this, whether it hands the processor over or not.
-/

namespace TerminalKernel

namespace Kernel

variable {k k' : Kernel}

theorem Settled.onlyDevices (settled : k.Settled) (only : k.OnlyDevices k') : k'.Settled := by
  refine settled.stay ⟨?_, ?_, ?_⟩
  · rw [only.roster]
    exact .stay
  · rw [Tabled, holdings_congr only.processes]
    exact settled.tabled
  · rw [only.pointer]
    exact settled.pointer

theorem settled_new (files : FileSystem) {arena : Arena} (storage : Storage)
    (wide : arena.top ≤ UInt64.size) :
    (Kernel.new files arena storage).Settled where
  sound := sound_new files arena storage
  threaded := by
    refine ⟨fun pid l live => ?_, fun t owner _ seated => ?_⟩
    · simp [roster, Kernel.new] at live
    · simp [roster, session, Kernel.new, Session.seat, Session.idle] at seated
  tabled pid o live := by
    simp [holdings, Kernel.new] at live
  pointer := rfl
  wide := wide

theorem onlyDevices_startClock (k : Kernel) : k.OnlyDevices (Computer.startClock k) := by
  have enabled : k.OnlyDevices ({ k with clock := k.clock.withPeriodic }.emit
      (clockWrites clockRegisterB k.clock.withPeriodic.b)) := ⟨_, _, _, _, _, rfl⟩
  exact enabled.trans (onlyDevices_programClock _ rtcDefaultHz)

theorem onlyDevices_startKernel (files : FileSystem) (arena : Arena) (storage : Storage) :
    (Kernel.new files arena storage).OnlyDevices (Computer.startKernel files arena storage) := by
  have set : ∀ (k : Kernel) (effects : List Effect), k.OnlyDevices (k.emit effects) :=
    fun _ _ => ⟨_, _, _, _, _, rfl⟩
  exact (((set _ _).trans (set _ _)).trans (onlyDevices_startClock _)).trans (set _ _)

end Kernel

namespace Computer

variable {c : Computer} {files : FileSystem} {arena : Arena} {storage : Kernel.Storage}

/-- The computer after some events, the latest first. -/
def afterAll (c : Computer) : List Event → Computer
  | [] => c
  | e :: earlier => ((c.afterAll earlier).step e).1

theorem settled_step (settled : c.kernel.Settled) (e : Event) :
    (c.step e).1.kernel.Settled := by
  rcases handsOver_or_proceeds settled e with ⟨h, hands⟩ | proceeds
  · have parked := hands.settled_parked settled
    rw [hands.after_eq]
    exact (h.proceeds parked).settled parked
  · exact proceeds.settled settled

theorem settled_afterAll (settled : c.kernel.Settled) (events : List Event) :
    (c.afterAll events).kernel.Settled := by
  induction events with
  | nil => exact settled
  | cons e earlier ih => exact settled_step ih e

theorem boot_eq (files : FileSystem) (arena : Arena) (storage : Kernel.Storage) :
    (∃ k cause, (startKernel files arena storage).act .start = (k, .stay) ∧
      boot files arena storage = ⟨k.log (.noFirstShell cause), .initial, .idle, []⟩) ∨
    ∃ k launch, (startKernel files arena storage).act .start = (k, .launch launch) ∧
      boot files arena storage = Computer.perform ⟨k, .initial, .idle, []⟩
        (startKernel files arena storage).stackPointer .idle (.launch launch) := by
  unfold boot
  generalize startKernel files arena storage = k
  dsimp only
  generalize spawned : k.spawn .first shellName [] (some .first) = result
  obtain ⟨k', cause | launch⟩ := result
  · refine .inl ⟨k', cause, ?_, rfl⟩
    simp only [Kernel.act, Kernel.start, spawned]
    rfl
  · refine .inr ⟨k', launch, ?_, rfl⟩
    simp only [Kernel.act, Kernel.start, spawned]
    rfl

theorem settled_boot (wide : arena.top ≤ UInt64.size) :
    (boot files arena storage).kernel.Settled := by
  have only := Kernel.onlyDevices_startKernel files arena storage
  have settled := (Kernel.settled_new files storage wide).onlyDevices only
  have idle : (startKernel files arena storage).scheduled = .first ∧
      ((startKernel files arena storage).session .first).active = false := by
    obtain ⟨_, _, _, _, _, same⟩ := only
    rw [same]
    exact ⟨rfl, by simp [Kernel.new, Kernel.session, Session.idle]⟩
  rcases boot_eq files arena storage with ⟨k, cause, acts, boots⟩ | ⟨k, launch, acts, boots⟩
  · have stopped := settled.stay (settled.decides acts fun _ => idle)
    rw [boots]
    exact stopped.stay (Interrupted.emit stopped [_]).decides
  · have decides := settled.decides acts fun _ => idle
    let h : Handover := ⟨⟨k, .initial, .idle, []⟩, (startKernel files arena storage).stackPointer,
      .idle, .launch launch⟩
    have parked : h.parked.kernel.Settled := by
      rw [h.kernel_parked]
      exact settled.park decides resumePoint
    rw [boots]
    exact (h.proceeds parked).settled parked

/-- A shell that can be started has the processor after boot. -/
theorem boot_of_startable {file : ProgramFile} {pid : ProcessId}
    (startable : (Kernel.new files arena storage).Startable shellName file pid) :
    ∃ k, boot files arena storage =
        ⟨k, .initial, .user (.start file.entry userStackTop), [(arena.bootStack, .idle)]⟩ ∧
      k.console = (Kernel.new files arena storage).console ∧
      k.roster = ((Kernel.new files arena storage).roster.begin .first pid).park
        (.launch ⟨pid, file.entry, userStackTop, .terminal .first⟩)
        (some (.suspended (UInt64.ofNat arena.bootStack) resumePoint)) := by
  have only := Kernel.onlyDevices_startKernel files arena storage
  have ready := startable.congr only.roster
  have console : (startKernel files arena storage).console =
      (Kernel.new files arena storage).console := rfl
  have place : (startKernel files arena storage).stackPointer = arena.bootStack := by
    obtain ⟨_, _, _, _, _, same⟩ := only
    rw [same]
    rfl
  rw [← only.roster, ← console]
  unfold boot
  generalize startKernel files arena storage = k at ready place
  obtain ⟨launched, after, shown⟩ := Kernel.spawn_launches ready .first [] (some .first)
  dsimp only
  rw [place]
  generalize k.spawn .first shellName [] (some .first) = spawned at launched after shown
  obtain ⟨k', _⟩ := spawned
  obtain rfl := launched
  refine ⟨k'.park (.launch ⟨pid, file.entry, userStackTop, .terminal .first⟩)
    (.suspended (UInt64.ofNat arena.bootStack) resumePoint), rfl, shown, ?_⟩
  rw [Kernel.roster_park]
  exact congrArg (Roster.park · _ _) after

theorem settled_reached (wide : arena.top ≤ UInt64.size) (events : List Event) :
    ((boot files arena storage).afterAll events).kernel.Settled :=
  settled_afterAll (settled_boot wide) events

end Computer

end TerminalKernel

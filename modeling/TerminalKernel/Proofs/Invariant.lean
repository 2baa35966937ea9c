import TerminalKernel.Proofs.Lineage
import TerminalKernel.Proofs.Simulation

/-!
# What holds throughout a run

At every moment of a run each terminal holds one line of processes, its owner first, and the
scheduled terminal's owner is the process that the processor knows of. Both hold together or not at
all: the kernel finds the process to end by its stack pointer, and the line to shorten by the
process it found.
-/

namespace TerminalKernel

/-! ## The invariant -/

namespace Roster

/-- The processor was told of the owner of the scheduled terminal. While that terminal has no owner,
the kernel stack is that of a process that ended, if there was any. -/
structure Coherent (r : Roster) : Prop where
  running : ∀ pid, (r.seat r.scheduled).owner = some pid →
    r.kernelStack = some (r.arena.stackTop pid) ∧ r.window = slotWindow pid
  idle : (r.seat r.scheduled).owner = none → ∀ top, r.kernelStack = some top →
    ∃ pid, pid < maxProcesses ∧ top = r.arena.stackTop pid ∧ r.link? pid = none

structure Sound (r : Roster) : Prop where
  stacked : ∀ t, ∃ line, Stacked r t line
  valid : ∀ pid l, r.link? pid = some l → pid < maxProcesses
  coherent : Coherent r

variable {r r' : Roster} {t : TerminalId} {pid : ProcessId}

theorem Sound.line_of_owner (sound : Sound r) (owner : (r.seat t).owner = some pid) :
    ∃ rest, Stacked r t (pid :: rest) := by
  obtain ⟨line, stacked⟩ := sound.stacked t
  cases line with
  | nil =>
    rw [stacked.owner] at owner
    cases owner
  | cons first rest =>
    rw [stacked.owner, List.head?_cons, Option.some_inj] at owner
    exact ⟨rest, owner ▸ stacked⟩

/-- The owner of a terminal is live and belongs to it. -/
theorem Sound.on_of_owner (sound : Sound r) (owner : (r.seat t).owner = some pid) : r.On t pid := by
  obtain ⟨rest, stacked⟩ := sound.line_of_owner owner
  exact (stacked.mem pid).mp List.mem_cons_self

theorem Sound.terminal_of_owner (sound : Sound r) (owner : (r.seat t).owner = some pid) {l : Link}
    (live : r.link? pid = some l) : l.terminal = t := by
  obtain ⟨l', found, here⟩ := sound.on_of_owner owner
  rw [live, Option.some_inj] at found
  rw [found, here]

theorem Sound.active_iff_owner (sound : Sound r) (t : TerminalId) :
    (r.seat t).active = true ↔ (r.seat t).owner.isSome = true := by
  obtain ⟨line, stacked⟩ := sound.stacked t
  rw [stacked.owner, List.isSome_head?]
  exact stacked.active

theorem Sound.active_iff_count (sound : Sound r) (t : TerminalId) :
    (r.seat t).active = true ↔ 0 < (r.seat t).processCount := by
  obtain ⟨line, stacked⟩ := sound.stacked t
  rw [stacked.count, List.length_pos_iff]
  exact stacked.active

theorem Sound.line_of_unused (sound : Sound r) (unused : (r.seat t).active = false) :
    Stacked r t [] := by
  obtain ⟨line, stacked⟩ := sound.stacked t
  have empty : line = [] := by
    by_contra some
    rw [stacked.active.mpr some] at unused
    cases unused
  exact empty ▸ stacked

theorem Sound.parent_on (sound : Sound r) {l : Link} (live : r.link? pid = some l) :
    r.On l.terminal l.parent := by
  obtain ⟨line, stacked⟩ := sound.stacked l.terminal
  have inside : pid ∈ line := (stacked.mem pid).mpr ⟨l, live, rfl⟩
  obtain ⟨parent, member, found⟩ :=
    (stacked.lineage (List.ne_nil_of_mem inside)).exists_parent inside
  rw [parent?, live, Option.map_some, Option.some_inj] at found
  rw [found]
  exact (stacked.mem parent).mp member

/-- The processor knows of the process that was entered last. -/
theorem Coherent.of_enter (pid : ProcessId) (owner : (r.seat r.scheduled).owner = some pid)
    (stack : r.kernelStack = some (r.arena.stackTop pid)) (window : r.window = slotWindow pid) :
    Coherent r where
  running q found := by
    rw [owner, Option.some_inj] at found
    exact found ▸ ⟨stack, window⟩
  idle none := by
    rw [owner] at none
    cases none

/-! ## What a step preserves -/

theorem valid_begin (valid : ∀ q l, r.link? q = some l → q < maxProcesses)
    (new : pid < maxProcesses) :
    ∀ q l, (r.begin t pid).link? q = some l → q < maxProcesses := by
  intro q l found
  rw [link?_begin] at found
  split at found
  · rename_i same
    exact same ▸ new
  · exact valid q l found

theorem valid_finish (t : TerminalId) (valid : ∀ q l, r.link? q = some l → q < maxProcesses) :
    ∀ q l, (r.finish pid t).link? q = some l → q < maxProcesses := by
  intro q l found
  rw [link?_finish] at found
  split at found
  · cases found
  · exact valid q l found

/-- A program is started on a terminal, which has the processor then. -/
theorem Sound.begin (sound : Sound r) (valid : pid < maxProcesses) (free : r.link? pid = none) :
    Sound { r.begin t pid with scheduled := t } where
  stacked u := by
    obtain ⟨line, stacked⟩ := sound.stacked u
    by_cases same : u = t
    · subst same
      have begun := stacked.toLined.begin (fun _ => stacked.owner) free
      exact ⟨_, begun.congr rfl fun _ _ => rfl⟩
    · exact ⟨line, (stacked.begin_of_ne same free).congr rfl fun _ _ => rfl⟩
  valid := valid_begin sound.valid valid
  coherent := by
    refine .of_enter pid ?_ rfl rfl
    change ((r.begin t pid).seat t).owner = some pid
    rw [seat_begin, if_pos rfl]

theorem Sound.turn (sound : Sound r) (seated : (r.seat t).owner = some pid) :
    Sound { r.enter pid with scheduled := t } where
  stacked u := by
    obtain ⟨line, stacked⟩ := sound.stacked u
    exact ⟨line, stacked.congr rfl fun _ _ => rfl⟩
  valid := sound.valid
  coherent := .of_enter pid seated rfl rfl

/-- The scheduled terminal's owner ends and the process behind it takes the terminal back. -/
theorem Sound.resume (sound : Sound r) {parent : ProcessId} {more : List ProcessId}
    (stacked : Stacked r r.scheduled (pid :: parent :: more)) :
    Sound ((r.finish pid r.scheduled).giveBack r.scheduled parent) where
  stacked u := by
    obtain ⟨line, other⟩ := sound.stacked u
    by_cases same : u = r.scheduled
    · subst same
      refine ⟨_, stacked.toLined.finish.giveBack ?_⟩
      rw [seat_finish, if_pos rfl]
      exact stacked.active.mpr (List.cons_ne_nil _ _)
    · have on := (stacked.mem pid).mp List.mem_cons_self
      exact ⟨line, (other.finish_of_ne same on).giveBack_of_ne same⟩
  valid := valid_finish r.scheduled sound.valid
  coherent := by
    refine .of_enter parent ?_ rfl rfl
    change (((r.finish pid r.scheduled).giveBack r.scheduled parent).seat r.scheduled).owner = _
    rw [seat_giveBack, if_pos rfl]

/-- The last process of the scheduled terminal ends and a shell takes its place. -/
theorem Sound.relaunch (sound : Sound r) {new : ProcessId} (stacked : Stacked r r.scheduled [pid])
    (valid : new < maxProcesses) (free : (r.finish pid r.scheduled).link? new = none) :
    Sound ((r.finish pid r.scheduled).begin r.scheduled new) where
  stacked u := by
    obtain ⟨line, other⟩ := sound.stacked u
    by_cases same : u = r.scheduled
    · subst same
      exact ⟨_, stacked.toLined.finish.begin (fun some => absurd rfl some) free⟩
    · have on := (stacked.mem pid).mp List.mem_cons_self
      exact ⟨line, (other.finish_of_ne same on).begin_of_ne same free⟩
  valid := valid_begin (valid_finish r.scheduled sound.valid) valid
  coherent := by
    refine .of_enter new ?_ rfl rfl
    change (((r.finish pid r.scheduled).begin r.scheduled new).seat r.scheduled).owner = some new
    rw [seat_begin, if_pos rfl]

/-- The last process of the scheduled terminal ends and nothing takes its place. -/
theorem Sound.idle (sound : Sound r) (stacked : Stacked r r.scheduled [pid]) :
    Sound ((r.finish pid r.scheduled).vacate r.scheduled) where
  stacked u := by
    obtain ⟨line, other⟩ := sound.stacked u
    by_cases same : u = r.scheduled
    · subst same
      exact ⟨_, stacked.toLined.finish.vacate⟩
    · have on := (stacked.mem pid).mp List.mem_cons_self
      exact ⟨line, (other.finish_of_ne same on).vacate_of_ne same⟩
  valid := valid_finish r.scheduled sound.valid
  coherent := by
    have vacant : (((r.finish pid r.scheduled).vacate r.scheduled).seat r.scheduled).owner =
        none := by
      rw [seat_vacate, if_pos rfl]
    have owner : (r.seat r.scheduled).owner = some pid := stacked.owner
    obtain ⟨l, live, _⟩ := sound.on_of_owner owner
    refine ⟨fun q found => ?_, fun _ top stack => ⟨pid, sound.valid pid l live, ?_, ?_⟩⟩
    · have absurd : none = some q := vacant.symm.trans found
      cases absurd
    · have told := (sound.coherent.running pid owner).1
      exact Option.some_inj.mp (stack.symm.trans told)
    · exact (link?_finish r r.scheduled pid pid).trans (if_pos rfl)

/-- The invariant holds after every step of a roster whose scheduled terminal's owner runs. -/
theorem Sound.step (sound : Sound r) {transfer : Transfer}
    (step : Step r (r.seat r.scheduled).owner transfer r') : Sound r' := by
  cases step with
  | stay => exact sound
  | execute valid free _ => exact sound.begin (t := r.scheduled) valid free
  | fresh _ valid free _ => exact sound.begin valid free
  | turn _ _ seated _ _ => exact sound.turn seated
  | @resume pid l _ _ current live child others _ =>
    obtain ⟨rest, stacked⟩ := sound.line_of_owner current
    rw [sound.terminal_of_owner current live] at others ⊢
    cases rest with
    | nil => exact absurd ((stacked.last_iff live).mpr rfl) (not_or.mpr ⟨others, child⟩)
    | cons parent more =>
      have parent_eq : l.parent = parent := stacked.parent_eq live
      rw [parent_eq]
      exact sound.resume stacked
  | relaunch current live last valid free _ =>
    obtain ⟨rest, stacked⟩ := sound.line_of_owner current
    rw [sound.terminal_of_owner current live] at last free ⊢
    obtain rfl := (stacked.last_iff live).mp last
    exact sound.relaunch stacked valid free
  | idle current live last =>
    obtain ⟨rest, stacked⟩ := sound.line_of_owner current
    rw [sound.terminal_of_owner current live] at last ⊢
    obtain rfl := (stacked.last_iff live).mp last
    exact sound.idle stacked

theorem Sound.park (sound : Sound r) (transfer : Transfer) (saved : Option SavedContext) :
    Sound (r.park transfer saved) := by
  unfold Roster.park
  split
  · refine ⟨fun t => ?_, sound.valid, sound.coherent.running, sound.coherent.idle⟩
    obtain ⟨line, stacked⟩ := sound.stacked t
    exact ⟨line, stacked.congr rfl fun _ _ => rfl⟩
  · exact sound

theorem Step.fixed {current? : Option ProcessId} {transfer : Transfer}
    (step : Step r current? transfer r') : r'.files = r.files ∧ r'.arena = r.arena := by
  cases step <;> exact ⟨rfl, rfl⟩

theorem park_fixed (r : Roster) (transfer : Transfer) (saved : Option SavedContext) :
    (r.park transfer saved).files = r.files ∧ (r.park transfer saved).arena = r.arena := by
  unfold Roster.park
  split <;> exact ⟨rfl, rfl⟩

end Roster

/-! ## The invariant over runs -/

namespace Kernel

theorem sound_new (files : FileSystem) (arena : Arena) (storage : Storage) :
    (Kernel.new files arena storage).roster.Sound where
  stacked t := by
    have seat : ((Kernel.new files arena storage).roster.seat t) = ⟨none, 0, false⟩ := by
      simp [roster, session, Kernel.new, Session.seat, Session.idle]
    refine ⟨[], ⟨?_, List.nodup_nil, fun pid => ?_, fun some => absurd rfl some⟩, ?_, ?_⟩
    · rw [seat]
      rfl
    · refine iff_of_false List.not_mem_nil ?_
      rintro ⟨l, found, _⟩
      simp [roster, Kernel.new] at found
    · rw [seat]
      rfl
    · simp [seat]
  valid pid l found := by
    simp [roster, Kernel.new] at found
  coherent := by
    refine ⟨fun pid owner => ?_, fun _ top stack => ?_⟩
    · simp [roster, session, Kernel.new, Session.seat, Session.idle] at owner
    · cases stack

variable {k : Kernel}

/-- The stack pointer tells whose kernel stack was selected last. -/
theorem holder?_stackPointer (stack : k.OnStack) {pid : ProcessId}
    (told : k.kernelStack = some (k.processes.arena.stackTop pid)) (valid : pid < maxProcesses) :
    k.processes.arena.holder? k.stackPointer = some pid := by
  unfold OnStack at stack
  rw [told] at stack
  exact Arena.holder?_eq_some_of_below valid stack.1 stack.2

/-- The process that the kernel finds by its stack pointer is the owner of the scheduled
terminal. -/
theorem currentPid?_eq_owner (sound : k.roster.Sound) (stack : k.OnStack) :
    k.currentPid? = (k.session k.scheduled).owner := by
  unfold currentPid? ProcessTable.current?
  cases owner : (k.session k.scheduled).owner with
  | some pid =>
    obtain ⟨l, live, _⟩ := sound.on_of_owner owner
    rw [holder?_stackPointer stack (sound.coherent.running pid owner).1 (sound.valid pid l live),
      Option.filter_some, if_pos (isLive_iff_link?.mpr ⟨l, live⟩)]
  | none =>
    cases told : k.kernelStack with
    | none =>
      unfold OnStack at stack
      rw [told] at stack
      rw [Arena.holder?_eq_none_of_outside stack, Option.filter_none]
    | some top =>
      obtain ⟨pid, valid, rfl, gone⟩ := sound.coherent.idle owner top told
      rw [holder?_stackPointer stack told valid, Option.filter_some, isLive_eq_false_iff_link?.mpr gone]
      rfl

/-- An action is a step of the roster in which the owner of the scheduled terminal runs. -/
theorem act_step_of_owner (sound : k.roster.Sound) (stack : k.OnStack) (a : Action)
    (ready : a = .start → k.scheduled = .first ∧ (k.session .first).active = false) :
    Roster.Step k.roster (k.roster.seat k.roster.scheduled).owner (k.act a).2
      (k.act a).1.roster := by
  have step := k.act_step a ready
  rw [currentPid?_eq_owner sound stack] at step
  exact step

theorem sound_after (sound : k.roster.Sound) (stack : k.OnStack) {a : Action}
    (ready : a = .start → k.scheduled = .first ∧ (k.session .first).active = false)
    (saved : Option SavedContext) : (Moment.mk k a saved).after.roster.Sound := by
  rw [Moment.roster_after]
  exact (sound.step (act_step_of_owner sound stack a ready)).park _ _

theorem fixed_after (sound : k.roster.Sound) (stack : k.OnStack) {a : Action}
    (ready : a = .start → k.scheduled = .first ∧ (k.session .first).active = false)
    (saved : Option SavedContext) :
    (Moment.mk k a saved).after.files = k.files ∧
      (Moment.mk k a saved).after.processes.arena = k.processes.arena := by
  have step := (act_step_of_owner sound stack a ready).fixed
  have parked := (k.act a).1.roster.park_fixed (k.act a).2 saved
  have after := Moment.roster_after ⟨k, a, saved⟩
  exact ⟨(congrArg Roster.files after).trans (parked.1.trans step.1),
    (congrArg Roster.arena after).trans (parked.2.trans step.2)⟩

theorem exists_stackTop (sound : k.roster.Sound) {top : Nat} (told : k.kernelStack = some top) :
    ∃ pid, top = k.processes.arena.stackTop pid := by
  cases owner : (k.session k.scheduled).owner with
  | some pid =>
    have known : k.kernelStack = some (k.processes.arena.stackTop pid) :=
      (sound.coherent.running pid owner).1
    exact ⟨pid, Option.some_inj.mp (told.symm.trans known)⟩
  | none =>
    obtain ⟨pid, _, which, _⟩ := sound.coherent.idle owner top told
    exact ⟨pid, which⟩

/-- The stack pointer that a kernel has on its own account is always in place. -/
theorem onStack_none (sound : k.roster.Sound) : (k.withStackPointer none).OnStack := by
  have same : (k.withStackPointer none).kernelStack = k.kernelStack := rfl
  cases told : k.kernelStack with
  | none =>
    have start : (k.withStackPointer none).stackPointer = k.processes.arena.bootStack := by
      simp only [stackPointer, withStackPointer, told, Option.map_none, Option.getD_none]
    unfold OnStack
    rw [same, told, start]
    exact k.processes.arena.outside
  | some top =>
    obtain ⟨pid, which⟩ := exists_stackTop sound told
    have high : stackSlotSize ≤ top := which ▸ Arena.stackSlotSize_le_stackTop _ pid
    have below : (k.withStackPointer none).stackPointer = top - 1 - k.stackDepth := by
      simp only [stackPointer, withStackPointer, told, Option.map_some, Option.getD_none,
        Option.getD_some]
    have depth := k.stackDepth.isLt
    unfold OnStack
    rw [same, told, below]
    simp only [stackSlotSize] at *
    omega

end Kernel

namespace Run

variable {files : FileSystem} {arena : Arena} {storage : Kernel.Storage} {h : List Moment}
  {k : Kernel}

/-- The first moment starts the first shell on a terminal where nothing runs. -/
theorem ready {a : Action} (run : Run (.new files arena storage) h k)
    (first : a = .start ↔ h = []) :
    a = .start → k.scheduled = .first ∧ (k.session .first).active = false := by
  intro start
  cases run with
  | new _ _ => exact ⟨rfl, by simp [Kernel.withStackPointer, Kernel.new, Kernel.session, Session.idle]⟩
  | step _ _ _ _ _ _ => exact absurd (first.mp start) (List.cons_ne_nil _ _)

theorem sound (run : Run (.new files arena storage) h k) : k.roster.Sound := by
  induction run with
  | new _ _ => exact Kernel.sound_new files arena storage
  | step run a first saved address _ ih =>
    rw [Kernel.roster_withStackPointer]
    exact Kernel.sound_after ih run.onStack (run.ready first) saved

theorem currentPid?_eq_owner (run : Run (.new files arena storage) h k) :
    k.currentPid? = (k.session k.scheduled).owner :=
  Kernel.currentPid?_eq_owner run.sound run.onStack

/-- The latest moment of a run does a step of a sound roster and saves a flow. -/
theorem latest {m : Moment} (run : Run (.new files arena storage) (m :: h) k) :
    Run (.new files arena storage) h m.before ∧ k.roster = m.after.roster ∧
      Roster.Step m.before.roster (m.before.roster.seat m.before.roster.scheduled).owner m.transfer
        m.decided.roster := by
  cases run with
  | step run a first saved address _ =>
    exact ⟨run, Kernel.roster_withStackPointer _ _,
      Kernel.act_step_of_owner run.sound run.onStack a (run.ready first)⟩

theorem fixed (run : Run (.new files arena storage) h k) :
    k.files = files ∧ k.processes.arena = arena := by
  induction run with
  | new _ _ => exact ⟨rfl, rfl⟩
  | step run _ first saved _ _ ih =>
    obtain ⟨sameFiles, sameArena⟩ := Kernel.fixed_after run.sound run.onStack (run.ready first) saved
    exact ⟨sameFiles.trans ih.1, sameArena.trans ih.2⟩

/-- Any actions can be played. -/
theorem of_play (flow : SavedContext) {actions : List Action} (begins : Action.Begins actions) :
    Run (.new files arena storage) ((Kernel.new files arena storage).play flow actions).1
      ((Kernel.new files arena storage).play flow actions).2 := by
  induction actions with
  | nil => exact .new none (Kernel.onStack_none (Kernel.sound_new files arena storage))
  | cons a earlier ih =>
    have run := ih begins.2
    have ready := run.ready (begins.1.trans Kernel.play_eq_nil.symm)
    exact .step run a (begins.1.trans Kernel.play_eq_nil.symm) (some flow) none
      (Kernel.onStack_none (Kernel.sound_after run.sound run.onStack ready _))

end Run

end TerminalKernel

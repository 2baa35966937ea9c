import TerminalKernel.Proofs.InputLines
import TerminalKernel.Proofs.SavedFlows

/-!
# Between two events

What is true of the kernel whenever it is not at work (`Kernel.Settled`), and what it may come to
when it decides on a transfer (`Kernel.Decides`). Every action decides, several actions that stay
decide together, and once the flow that loses the processor is saved the kernel is settled again.
-/

namespace TerminalKernel

namespace Kernel

structure Settled (k : Kernel) : Prop where
  sound : k.roster.Sound
  threaded : k.roster.Threaded
  tabled : k.Tabled
  /-- The stack pointer lies in the kernel stack. -/
  pointer : k.stackPointerOverride = none
  /-- Stacks lie at addresses of 64 bits. -/
  wide : k.processes.arena.top ≤ UInt64.size

/-- A kernel decides on a transfer, and all that is left to do is to carry it out. -/
structure Decides (k : Kernel) (transfer : Transfer) (k' : Kernel) : Prop where
  step : Roster.Step k.roster (k.roster.seat k.roster.scheduled).owner transfer k'.roster
  tabled : k'.Tabled
  pointer : k'.stackPointerOverride = none

variable {k k' k'' : Kernel} {transfer : Transfer} {pid : ProcessId} {t : TerminalId} {a : Action}

/-! ## The stack pointer -/

/-- Nothing but the stack of a process that ran is ever told to the processor. -/
theorem Settled.onStack (settled : k.Settled) : k.OnStack := by
  have same : k.withStackPointer none = k := by rw [withStackPointer, ← settled.pointer]
  exact same ▸ onStack_none settled.sound

theorem Settled.holder?_of_owner (settled : k.Settled)
    (owner : (k.session k.scheduled).owner = some pid) :
    k.processes.arena.holder? k.stackPointer = some pid := by
  obtain ⟨l, live, _⟩ := settled.sound.on_of_owner owner
  exact holder?_stackPointer settled.onStack (settled.sound.coherent.running pid owner).1
    (settled.sound.valid pid l live)

theorem Settled.toNat_stackPointer (settled : k.Settled)
    (owner : (k.session k.scheduled).owner = some pid) :
    (UInt64.ofNat k.stackPointer).toNat = k.stackPointer := by
  have inside := Arena.lt_top_of_holder? (settled.holder?_of_owner owner)
  exact UInt64.toNat_ofNat_of_lt' (Nat.lt_of_lt_of_le inside settled.wide)

/-- A live process on whose stack the kernel runs is the one that runs. -/
theorem Settled.owner_of_holder? (settled : k.Settled) {l : Link}
    (live : k.roster.link? pid = some l)
    (holder : k.processes.arena.holder? k.stackPointer = some pid) :
    (k.session k.scheduled).owner = some pid := by
  rw [← currentPid?_eq_owner settled.sound settled.onStack, currentPid?, ProcessTable.current?,
    holder, Option.filter_some, if_pos (isLive_iff_link?.mpr ⟨l, live⟩)]

theorem OnlyDevices.pointer (only : k.OnlyDevices k') :
    k'.stackPointerOverride = k.stackPointerOverride := by
  obtain ⟨_, _, _, _, _, rfl⟩ := only
  rfl

theorem pointer_performs (performs : Performs pid t k k') :
    k'.stackPointerOverride = k.stackPointerOverride := by
  induction performs with
  | refl => rfl
  | tail _ update ih => cases update <;> exact ih

theorem pointer_displayFresh (k : Kernel) (t : TerminalId) :
    (k.displayFresh t).1.stackPointerOverride = k.stackPointerOverride := by
  have shown := (k.onlyDevices_display t).pointer
  have spawned := pointer_performs
    ((k.display t).performs_spawn 0 t shellName [] (some k.scheduled))
  unfold displayFresh
  generalize (k.display t).spawn t shellName [] (some k.scheduled) = result at spawned ⊢
  obtain ⟨k', cause | launch⟩ := result
  · have back := ((k'.log (.shellNotStarted t cause)).onlyDevices_display
      k.console.displayed).pointer
    exact back.trans (spawned.trans shown)
  · exact spawned.trans shown

theorem pointer_switchTerminal (k : Kernel) (t : TerminalId) :
    (k.switchTerminal t).1.stackPointerOverride = k.stackPointerOverride := by
  unfold switchTerminal
  split
  · rfl
  · split
    · exact (k.onlyDevices_display t).pointer
    · split
      · exact (k.onlyDevices_print _ _).pointer
      · exact k.pointer_displayFresh t

/-- No action moves the stack pointer away from the kernel stack. -/
theorem pointer_act (sound : k.roster.Sound) (stack : k.OnStack) (a : Action) :
    (k.act a).1.stackPointerOverride = k.stackPointerOverride := by
  obtain ⟨pid, own⟩ := exists_runsAs sound stack
  have call (asked : a.isCall = true) (window : ∀ address, a ≠ .mapVideo address) :
      (k.act a).1.stackPointerOverride = k.stackPointerOverride :=
    pointer_performs (performs_act own asked window)
  cases a with
  | start =>
    rw [act, fst_ofCall]
    exact pointer_performs (k.performs_spawn 0 .first shellName [] (some .first))
  | mapVideo address =>
    rcases k.mapVideo_cases address with ⟨_, failed⟩ | ⟨_, _, _, mapped⟩
    · rw [act, failed]
    · rw [act, mapped]
      rfl
  | store address bytes => exact (k.onlyDevices_storeUser address bytes).pointer
  | tick =>
    rcases k.tick_cases with same | ⟨_, noted⟩ | ⟨_, _, _, _, _, _, turned⟩
    · rw [act, same]
    · rw [act, noted]
      rfl
    · rw [act, turned]
      rfl
  | switchTerminal t => exact k.pointer_switchTerminal t
  | key key =>
    rcases k.handleKey_cases key with taken | ⟨-, t, selected⟩
    · rw [act, taken]
      exact (k.onlyDevices_receiveKey key).pointer
    · rw [act, selected]
      exact k.pointer_switchTerminal t
  | clockTick | emit _ => rfl
  | execute _ | halt _ | openFile _ | closeFile _ | read _ _ | write _ _ | getArgs _
  | writeScreen _ _ _ => exact call rfl fun _ same => by cases same

/-! ## Decisions -/

/-- Every action decides on a transfer. -/
theorem Settled.decides (settled : k.Settled) (acts : k.act a = (k', transfer))
    (ready : a = .start → k.scheduled = .first ∧ (k.session .first).active = false) :
    k.Decides transfer k' := by
  have step := act_step_of_owner settled.sound settled.onStack a ready
  have holdings := k.act_holdings a
  have pointer := pointer_act settled.sound settled.onStack a
  rw [acts] at step holdings pointer
  exact ⟨step, holdings.forall_held settled.tabled Holdings.Tabled.new
    fun _ _ _ table rebinds => table.rebinds rebinds, pointer.trans settled.pointer⟩

theorem Decides.roster_eq (stays : k.Decides .stay k') : k'.roster = k.roster := by
  have step := stays.step
  generalize k'.roster = r' at step
  cases step with
  | stay => rfl

theorem Decides.arena_eq (decides : k.Decides transfer k') :
    k'.processes.arena = k.processes.arena := decides.step.fixed.2

theorem Settled.refl (settled : k.Settled) : k.Decides .stay k :=
  ⟨.stay, settled.tabled, settled.pointer⟩

theorem Decides.trans (first : k.Decides .stay k') (second : k'.Decides transfer k'') :
    k.Decides transfer k'' where
  step := first.roster_eq ▸ second.step
  tabled := second.tabled
  pointer := second.pointer

theorem Settled.stay (settled : k.Settled) (stays : k.Decides .stay k') : k'.Settled where
  sound := stays.roster_eq ▸ settled.sound
  threaded := stays.roster_eq ▸ settled.threaded
  tabled := stays.tabled
  pointer := stays.pointer
  wide := stays.arena_eq ▸ settled.wide

theorem pointer_park (k : Kernel) (transfer : Transfer) (context : SavedContext) :
    (k.park transfer context).stackPointerOverride = k.stackPointerOverride := by
  obtain ⟨_, _, same⟩ := k.park_eq transfer context
  rw [same]

/-- A transfer is carried out by saving the flow that loses the processor where it rests. -/
theorem Settled.park (settled : k.Settled) (decides : k.Decides transfer k') (rip : UInt64) :
    (k'.park transfer (.suspended (UInt64.ofNat k.stackPointer) rip)).Settled := by
  have roster := k'.roster_park transfer (.suspended (UInt64.ofNat k.stackPointer) rip)
  have arena : (k'.park transfer (.suspended (UInt64.ofNat k.stackPointer) rip)).processes.arena =
      k.processes.arena := by
    have parked := (k'.roster.park_fixed transfer
      (some (.suspended (UInt64.ofNat k.stackPointer) rip))).2
    rw [← roster] at parked
    exact parked.trans decides.arena_eq
  refine ⟨?_, ?_, ?_, ?_, ?_⟩
  · rw [roster]
    exact (settled.sound.step decides.step).park _ _
  · rw [roster]
    refine settled.threaded.step settled.sound decides.step fun owner seated => ?_
    change k.processes.arena.holder? (UInt64.ofNat k.stackPointer).toNat = some owner
    rw [settled.toNat_stackPointer seated, settled.holder?_of_owner seated]
  · intro pid o live
    rw [holdings_park] at live
    exact decides.tabled pid o live
  · rw [pointer_park]
    exact decides.pointer
  · rw [arena]
    exact settled.wide

/-! ## Lines -/

/-- Only keys and reads reach a line. -/
theorem Settled.line_act (settled : k.Settled) (acts : k.act a = (k', transfer))
    (quiet : a.isInput = false) (t : TerminalId) : k'.line t = k.line t := by
  have step := (k.act_console a).line_eq settled.tabled t
  rw [lineInput?_of_quiet quiet, acts] at step
  exact step

theorem Settled.line_key (settled : k.Settled) (key : Key) (t : TerminalId) :
    (k.act (.key key)).1.line t =
      if k.console.displayed = t then (k.line t).press key else k.line t := by
  have step := (k.act_console (.key key)).line_eq settled.tabled t
  rw [lineInput?] at step
  by_cases shown : k.console.displayed = t
  · rw [if_pos shown] at step ⊢
    exact step
  · rw [if_neg shown] at step ⊢
    exact step

theorem Settled.line_read (settled : k.Settled) (fd : Nat) (room : Option Nat)
    (other : t ≠ k.scheduled) : (k.act (.read fd room)).1.line t = k.line t := by
  have step := (k.act_console (.read fd room)).line_eq settled.tabled t
  have none : k.lineInput? t (.read fd room) = none := by
    cases room with
    | none => rfl
    | some room =>
      refine if_neg fun own => ?_
      obtain ⟨pid, p, running, here⟩ := exists_current own.2
      exact other (here.symm.trans (owner_of_current settled.sound settled.onStack running).2)
  rw [none] at step
  exact step

end Kernel

end TerminalKernel

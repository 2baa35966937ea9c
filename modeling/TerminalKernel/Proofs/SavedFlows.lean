import TerminalKernel.Proofs.Turns

/-!
# Saved flows

A flow that is suspended stays on the kernel stack of the process that ran, and what is saved of it
is the stack pointer. Every flow that can be continued rests on the stack of the process that runs
from then on: that of a caller is saved for its parent, that of a terminal for its owner
(`Roster.Threaded`). Each step of a roster keeps this, so that a flow is never continued for another
process than its own (`Step.rests_of_resumed`).
-/

namespace TerminalKernel

namespace Roster

variable {r r' : Roster} {transfer : Transfer} {context : SavedContext} {pid : ProcessId}
  {t : TerminalId}

/-- The flow saved in a slot rests on the kernel stack of a process. -/
def RestsOn (r : Roster) (slot : SaveSlot) (pid : ProcessId) : Prop :=
  ∀ context, r.saved? slot = some context → r.arena.holder? context.rsp.toNat = some pid

/-- Saved flows rest where they belong. -/
structure Threaded (r : Roster) : Prop where
  /-- A process was started by its parent. -/
  caller : ∀ pid l, r.link? pid = some l → l.parent ≠ pid → r.RestsOn (.parent pid) l.parent
  /-- The owner of a terminal ran when the terminal lost the processor. -/
  waiting : ∀ t owner, t ≠ r.scheduled → (r.seat t).owner = some owner →
    r.RestsOn (.terminal t) owner

/-- The saved flow that carrying out a transfer continues. -/
def resumed? (r : Roster) : Transfer → Option SavedContext
  | .resume context _ => some context
  | .switch _ target => r.saved? (.terminal target)
  | .stay | .launch _ | .idle => none

theorem RestsOn.congr {slot : SaveSlot} (rests : r.RestsOn slot pid) (arena : r'.arena = r.arena)
    (saved : r'.saved? slot = r.saved? slot) : r'.RestsOn slot pid := by
  intro context here
  rw [saved] at here
  rw [arena, rests context here]

/-- What a step suspends is the flow of the process that ran, and it is saved where that process is
to go on. -/
theorem Threaded.step (threaded : Threaded r) (sound : Sound r)
    (step : Step r (r.seat r.scheduled).owner transfer r')
    (rests : ∀ owner, (r.seat r.scheduled).owner = some owner →
      r.arena.holder? context.rsp.toNat = some owner) :
    Threaded (r'.park transfer (some context)) := by
  have arena : (r'.park transfer (some context)).arena = r.arena :=
    (r'.park_fixed transfer (some context)).2.trans step.fixed.2
  constructor
  · intro pid l live child
    rw [link?_park] at live
    by_cases launches : transfer.Launches pid
    · obtain ⟨owner, slot, saved⟩ := sound.launched_child step launches live child
      intro context' here
      rw [saved?_park, if_pos slot, saved, Option.map_some, Option.getD_some, Option.some_inj]
        at here
      rw [← here, arena]
      exact rests _ owner
    · obtain ⟨was, saved⟩ := (step.launched_or_kept live).resolve_left launches
      refine (threaded.caller pid l was child).congr arena ?_
      rw [saved?_park, if_neg fun slot => launches (step.launches_of_slot slot), saved]
  · intro t owner other seated
    rw [scheduled_park] at other
    rw [seat_park] at seated
    have passes := sound.passes step other
    rw [passes.seat] at seated
    by_cases had : t = r.scheduled
    · subst had
      intro context' here
      rw [saved?_park, if_pos (passes.slot.mpr rfl), Option.map_eq_some_iff] at here
      obtain ⟨_, _, rfl⟩ := here
      rw [arena, Option.getD_some]
      exact rests owner seated
    · refine (threaded.waiting t owner had seated).congr arena ?_
      rw [saved?_park, if_neg fun slot => had (passes.slot.mp slot), passes.flow]

/-- A flow that is continued is that of the process that runs from then on. -/
theorem Step.rests_of_resumed (step : Step r (r.seat r.scheduled).owner transfer r')
    (sound : Sound r) (threaded : Threaded r) (resumed : r'.resumed? transfer = some context) :
    ∃ pid, (r'.seat r'.scheduled).owner = some pid ∧
      r.arena.holder? context.rsp.toNat = some pid := by
  cases step with
  | stay | execute _ _ _ | fresh _ _ _ _ | relaunch _ _ _ _ _ _ | idle _ _ _ => cases resumed
  | @resume pid l _ _ current live child _ saved =>
    cases resumed
    refine ⟨l.parent, ?_, threaded.caller pid l live child _ saved⟩
    rw [sound.terminal_of_owner current live]
    change (((r.finish pid r.scheduled).giveBack r.scheduled l.parent).seat r.scheduled).owner = _
    rw [seat_giveBack, if_pos rfl]
  | @turn t owner _ other _ seated _ _ =>
    exact ⟨owner, seated, threaded.waiting t owner other seated _ resumed⟩

/-- No step reaches the flow that is saved at a terminal. It is saved there only afterwards. -/
theorem Step.saved?_terminal {current? : Option ProcessId} (step : Step r current? transfer r')
    (t : TerminalId) : r'.saved? (.terminal t) = r.saved? (.terminal t) := by
  cases step with
  | stay | turn _ _ _ _ _ => rfl
  | execute _ _ _ => exact saved?_begin_terminal ..
  | @fresh u l _ _ _ _ => exact saved?_begin_terminal r u t l.pid
  | @resume pid p _ _ _ _ _ _ _ => exact saved?_finish_terminal r p.terminal t pid
  | @idle pid p _ _ _ => exact saved?_finish_terminal r p.terminal t pid
  | relaunch _ _ _ _ _ _ => exact (saved?_begin_terminal ..).trans (saved?_finish_terminal ..)

/-- The owner of a terminal keeps it while another terminal has the processor, and while its own
turn is only interrupted. If its terminal has the processor afterwards, then its own flow goes on. -/
theorem Sound.keeps_turn (sound : Sound r) (step : Step r (r.seat r.scheduled).owner transfer r')
    (owner : (r.seat t).owner = some pid)
    (preempts : t = r.scheduled →
      transfer = .stay ∨ transfer.saveSlot? = some (.terminal r.scheduled)) :
    (r'.seat t).owner = some pid ∧
      (t = r'.scheduled → transfer = .stay ∨ ∃ source, transfer = .switch source t) := by
  by_cases here : t = r'.scheduled
  · cases step with
    | stay => exact ⟨owner, fun _ => .inl rfl⟩
    | turn _ _ _ _ _ =>
      subst here
      exact ⟨owner, fun _ => .inr ⟨_, rfl⟩⟩
    | fresh unused _ _ _ =>
      have active := (sound.active_iff_owner t).mpr (by rw [owner]; rfl)
      subst here
      rw [unused] at active
      cases active
    | execute _ _ save | relaunch _ _ _ _ _ save =>
      rcases preempts here with stays | slot
      · cases stays
      · rw [Transfer.saveSlot?, save] at slot
        cases slot
    | resume _ _ _ _ _ | idle _ _ _ => rcases preempts here with stays | slot <;> contradiction
  · rw [(sound.passes step here).seat]
    exact ⟨owner, fun scheduled => absurd scheduled here⟩

end Roster

end TerminalKernel

import TerminalKernel.Proofs.Incarnation

/-!
# Waiting terminals

A terminal that is in use but does not have the processor waits with the flow that was saved when it
lost the processor, and with the owner it had then. A tick of the timer can therefore always give
the processor to the next terminal in use.
-/

namespace TerminalKernel

namespace Roster

variable {r r' : Roster} {t : TerminalId} {transfer : Transfer}

/-- What a step does to a terminal that does not have the processor afterwards: its flow is saved
if it had the processor before, and else nothing happens to it. -/
structure Passes (r : Roster) (t : TerminalId) (transfer : Transfer) (r' : Roster) : Prop where
  seat : r'.seat t = r.seat t
  flow : r'.saved? (.terminal t) = r.saved? (.terminal t)
  notLaunched : ∀ q, r.On t q → ¬ transfer.Launches q
  slot : transfer.saveSlot? = some (.terminal t) ↔ t = r.scheduled

theorem saved?_begin_terminal (r : Roster) (u t : TerminalId) (pid : ProcessId) :
    (r.begin u pid).saved? (.terminal t) = r.saved? (.terminal t) :=
  (saved?_begin ..).trans (if_neg (by simp))

theorem saved?_finish_terminal (r : Roster) (u t : TerminalId) (pid : ProcessId) :
    (r.finish pid u).saved? (.terminal t) = r.saved? (.terminal t) :=
  (saved?_finish r u pid _).trans (if_neg (by simp))

theorem not_launches_of_free {launch : Launch} (free : r.link? launch.pid = none) (q : ProcessId)
    (on : r.On t q) : ¬ (Transfer.launch launch).Launches q := by
  rintro ⟨l, same, rfl⟩
  cases same
  exact not_on_of_free free on

theorem Sound.passes (sound : Sound r) (step : Step r (r.seat r.scheduled).owner transfer r')
    (other : t ≠ r'.scheduled) : Passes r t transfer r' := by
  cases step with
  | stay =>
    refine ⟨rfl, rfl, fun q _ => Transfer.not_launches (by simp) q, iff_of_false ?_ other⟩
    simp [Transfer.saveSlot?]
  | execute _ free save =>
    have other : t ≠ r.scheduled := other
    refine ⟨?_, saved?_begin_terminal .., not_launches_of_free free, iff_of_false ?_ other⟩
    · rw [seat_begin, if_neg other]
    · simp [Transfer.saveSlot?, save]
  | @fresh u launch _ _ free save =>
    refine ⟨?_, saved?_begin_terminal r u t launch.pid, not_launches_of_free free, ?_⟩
    · exact (seat_begin r u t _).trans (if_neg other)
    · rw [Transfer.saveSlot?, save, Option.some_inj, SaveSlot.terminal.injEq, eq_comm]
  | @turn u owner _ _ _ _ _ _ =>
    refine ⟨rfl, rfl, fun q _ => Transfer.not_launches (by simp) q, ?_⟩
    rw [Transfer.saveSlot?, Option.some_inj, SaveSlot.terminal.injEq, eq_comm]
  | @resume pid l _ _ current live _ _ _ =>
    have here := sound.terminal_of_owner current live
    have other : t ≠ r.scheduled := other
    rw [here]
    refine ⟨?_, saved?_finish_terminal r r.scheduled t pid,
      fun q _ => Transfer.not_launches (by simp) q, iff_of_false ?_ other⟩
    · rw [seat_giveBack, if_neg other, seat_finish, if_neg other]
    · simp [Transfer.saveSlot?]
  | @idle pid l current live _ =>
    have here := sound.terminal_of_owner current live
    have other : t ≠ r.scheduled := other
    rw [here]
    refine ⟨?_, saved?_finish_terminal r r.scheduled t pid,
      fun q _ => Transfer.not_launches (by simp) q, iff_of_false ?_ other⟩
    · rw [seat_vacate, if_neg other, seat_finish, if_neg other]
    · simp [Transfer.saveSlot?]
  | @relaunch pid l launch current live _ _ free save =>
    have here := sound.terminal_of_owner current live
    rw [here] at free ⊢
    have other : t ≠ r.scheduled := other
    refine ⟨?_, ?_, fun q on => ?_, iff_of_false ?_ other⟩
    · rw [seat_begin, if_neg other, seat_finish, if_neg other]
    · rw [saved?_begin_terminal, saved?_finish_terminal]
    · -- The number of the process that ends may be given out again, but it is not on this terminal.
      have survives : q ≠ pid := by
        rintro rfl
        exact other (on.unique (sound.on_of_owner current))
      refine not_launches_of_free (t := t) free q ?_
      rw [On, link?_finish, if_neg survives]
      exact on
    · simp [Transfer.saveSlot?, save]

/-- A switch is decided on only when a flow waits at its target. -/
theorem Step.flow_of_switch {current? : Option ProcessId} {source target : TerminalId}
    (step : Step r current? (.switch source target) r') :
    ∃ context, r'.saved? (.terminal target) = some context ∧ context.isEmpty = false := by
  cases step with
  | turn _ _ _ saved parked => exact ⟨_, saved, parked⟩

theorem seat_park (r : Roster) (saved : Option SavedContext) :
    (r.park transfer saved).seat = r.seat := by
  unfold Roster.park
  split <;> rfl

theorem scheduled_park (r : Roster) (saved : Option SavedContext) :
    (r.park transfer saved).scheduled = r.scheduled := by
  unfold Roster.park
  split <;> rfl

end Roster

theorem Moment.scheduled_after (m : Moment) : m.after.scheduled = m.decided.scheduled := by
  have roster := congrArg Roster.scheduled m.roster_after
  rw [Roster.scheduled_park] at roster
  exact roster

/-! ## Since a terminal lost the processor -/

/-- The moment took the processor from the terminal, which has been waiting since with the owner
that ran then. -/
structure Parked (h : List Moment) (k : Kernel) (t : TerminalId) (owner : ProcessId) (m : Moment)
    (later : List Moment) : Prop where
  history : ∃ earlier, h = later ++ m :: earlier
  scheduled : m.before.scheduled = t
  lost : m.after.scheduled ≠ t
  waiting : ∀ e ∈ later, e.before.scheduled ≠ t ∧ e.after.scheduled ≠ t
  current : m.before.currentPid? = some owner
  seated : (k.session t).owner = some owner
  kept : ∀ e ∈ m :: later, e.Keeps owner
  slot : m.transfer.saveSlot? = some (.terminal t)
  flow : ∀ context, m.saved = some context → (k.session t).context = context

namespace Run

variable {files : FileSystem} {arena : Arena} {storage : Kernel.Storage} {h : List Moment}
  {k : Kernel}

/-- What the latest moment did to a terminal that does not have the processor now. -/
theorem passes {m : Moment} (run : Run (.new files arena storage) (m :: h) k) {t : TerminalId}
    (other : t ≠ k.scheduled) :
    Roster.Passes m.before.roster t m.transfer m.decided.roster ∧ m.after.scheduled ≠ t ∧
      k.roster.seat t = m.before.roster.seat t ∧
      k.roster.saved? (.terminal t) = if t = m.before.scheduled then
        (m.before.roster.saved? (.terminal t)).map (m.saved.getD ·)
        else m.before.roster.saved? (.terminal t) := by
  obtain ⟨before, same, step⟩ := run.latest
  have scheduled : k.scheduled = m.after.scheduled := congrArg Roster.scheduled same
  have lost : t ≠ m.decided.roster.scheduled := by
    rw [Kernel.scheduled_roster, ← m.scheduled_after, ← scheduled]
    exact other
  have passes := before.sound.passes step lost
  refine ⟨passes, fun back => other (scheduled.trans back).symm, ?_, ?_⟩
  · rw [same, Moment.roster_after, Roster.seat_park, passes.seat]
  · rw [same, Moment.roster_after, Roster.saved?_park, passes.flow, if_congr passes.slot rfl rfl]
    rfl

theorem keeps_owner {m : Moment} (run : Run (.new files arena storage) (m :: h) k) {t : TerminalId}
    (other : t ≠ k.scheduled) {owner : ProcessId} (seated : (k.session t).owner = some owner) :
    m.Keeps owner ∧ (m.before.session t).owner = some owner := by
  obtain ⟨before, same, _⟩ := run.latest
  obtain ⟨passes, _, seat, _⟩ := run.passes other
  have was : (m.before.roster.seat t).owner = some owner := seat ▸ seated
  have on := before.sound.on_of_owner was
  have ⟨_, liveBefore, _⟩ := on
  obtain ⟨_, liveAfter, _⟩ := run.sound.on_of_owner seated
  exact ⟨Moment.keeps_of_link? liveBefore (same ▸ liveAfter) (passes.notLaunched owner on), was⟩

/-- Every terminal in use that does not have the processor lost it at a moment of the run. -/
theorem exists_parked (run : Run (.new files arena storage) h k) {t : TerminalId}
    (active : (k.session t).active = true) (other : t ≠ k.scheduled) :
    ∃ owner m later, Parked h k t owner m later := by
  induction h generalizing k with
  | nil =>
    cases run
    simp [Kernel.withStackPointer, Kernel.new, Kernel.session, Session.idle] at active
  | cons m h ih =>
    have before := run.latest.1
    obtain ⟨passes, lost, seat, flow⟩ := run.passes other
    obtain ⟨owner, seated⟩ := Option.isSome_iff_exists.mp ((run.sound.active_iff_owner t).mp active)
    obtain ⟨keeps, was⟩ := run.keeps_owner other seated
    by_cases had : t = m.before.scheduled
    · subst had
      refine ⟨owner, m, [], ⟨h, rfl⟩, rfl, lost, fun _ none => absurd none List.not_mem_nil,
        before.currentPid?_eq_owner.trans was, seated, List.forall_mem_singleton.mpr keeps,
        passes.slot.mpr rfl, fun context saved => ?_⟩
      rw [if_pos rfl, saved] at flow
      exact Option.some_inj.mp flow
    · have activeBefore : (m.before.session t).active = true := by
        have same : (k.session t).active = (m.before.session t).active := congrArg Seat.active seat
        rw [← same]
        exact active
      obtain ⟨owner', m₀, later, parked⟩ := ih before activeBefore had
      have same : owner' = owner := Option.some_inj.mp (parked.seated.symm.trans was)
      subst same
      obtain ⟨earlier, history⟩ := parked.history
      refine ⟨owner', m₀, m :: later, ⟨earlier, congrArg (m :: ·) history⟩, parked.scheduled,
        parked.lost, List.forall_mem_cons.mpr ⟨⟨Ne.symm had, lost⟩, parked.waiting⟩,
        parked.current, seated, ?_, parked.slot, fun context saved => ?_⟩
      · obtain ⟨first, rest⟩ := List.forall_mem_cons.mp parked.kept
        exact List.forall_mem_cons.mpr ⟨first, List.forall_mem_cons.mpr ⟨keeps, rest⟩⟩
      · rw [if_neg had] at flow
        exact (Option.some_inj.mp flow).trans (parked.flow context saved)

end Run

/-! ## The next turn -/

/-- The terminal some steps after another in cyclic order. -/
def TerminalId.after (t : TerminalId) : Nat → TerminalId
  | 0 => t
  | steps + 1 => (t.after steps).next

theorem TerminalId.eq_next_of_ne {t u : TerminalId} (other : u ≠ t) :
    u = t.next ∨ u = t.next.next := by
  revert t u
  decide

theorem TerminalId.next_ne (t : TerminalId) : t.next ≠ t ∧ t.next.next ≠ t := by
  revert t
  decide

namespace Kernel

/-- The first terminal in use after `t` in cyclic order, `t` itself left out. -/
def FirstActive (k : Kernel) (t target : TerminalId) : Prop :=
  ∃ steps, 0 < steps ∧ steps < terminalCount ∧ target = t.after steps ∧
    (k.session target).active = true ∧
    ∀ fewer, 0 < fewer → fewer < steps → (k.session (t.after fewer)).active = false

/-- Carrying out the transfer would have to give up: the flow to switch to is missing. -/
def panicsOn (k : Kernel) : Transfer → Bool
  | .switch _ target => (k.session target).context.isEmpty
  | _ => false

variable {k : Kernel} {t target : TerminalId}

theorem exists_firstActive {u : TerminalId} (other : u ≠ t) (active : (k.session u).active = true) :
    ∃ target, k.FirstActive t target := by
  by_cases next : (k.session t.next).active = true
  · refine ⟨t.next, 1, by decide, by decide, rfl, next, fun fewer some less => ?_⟩
    omega
  · rw [Bool.not_eq_true] at next
    rcases TerminalId.eq_next_of_ne other with rfl | rfl
    · rw [active] at next
      cases next
    · refine ⟨t.next.next, 2, by decide, by decide, rfl, active, fun fewer some less => ?_⟩
      obtain rfl : fewer = 1 := by omega
      exact next

theorem nextActive?_of_firstActive (first : k.FirstActive t target) :
    k.nextActive? t = some target ∧ target ≠ t := by
  obtain ⟨steps, some, few, rfl, active, inactive⟩ := first
  unfold nextActive?
  match steps, some, few with
  | 1, _, _ =>
    have active : (k.session t.next).active = true := active
    exact ⟨List.find?_cons_of_pos active, t.next_ne.1⟩
  | 2, _, _ =>
    have active : (k.session t.next.next).active = true := active
    have skipped : (k.session t.next).active = false := inactive 1 (by decide) (by decide)
    refine ⟨?_, t.next_ne.2⟩
    rw [List.find?_cons_of_neg (by rw [skipped]; decide)]
    exact List.find?_cons_of_pos active

/-- What a tick does, provided that the next terminal in use waits with an owner and a flow. -/
theorem tick_of_next (found : k.nextActive? k.scheduled = some target) (other : target ≠ k.scheduled)
    {owner : ProcessId} (seated : (k.session target).owner = some owner)
    (parked : (k.session target).context.isEmpty = false) :
    k.tick = (k.schedule target owner, .switch k.scheduled target) := by
  unfold tick
  rw [found]
  dsimp only
  rw [if_neg other, seated]
  dsimp only
  rw [parked]
  rfl

theorem tick_of_firstActive (first : k.FirstActive k.scheduled target) {owner : ProcessId}
    (seated : (k.session target).owner = some owner)
    (parked : (k.session target).context.isEmpty = false) :
    k.tick = (k.schedule target owner, .switch k.scheduled target) := by
  obtain ⟨found, other⟩ := nextActive?_of_firstActive first
  exact tick_of_next found other seated parked

theorem tick_of_alone (alone : ∀ u, u ≠ k.scheduled → (k.session u).active = false) :
    k.tick = (k, .stay) := by
  unfold tick
  cases found : k.nextActive? k.scheduled with
  | none => rfl
  | some next =>
    have here : next = k.scheduled := by
      by_contra other
      have active := nextActive?_active found
      rw [alone next other] at active
      cases active
    dsimp only
    rw [if_pos here]

end Kernel

namespace Run

variable {files : FileSystem} {arena : Arena} {storage : Kernel.Storage} {h : List Moment}
  {k : Kernel}

theorem exists_flow (run : Run (.new files arena storage) h k) (saves : ∀ m ∈ h, m.Saves)
    {t : TerminalId} (active : (k.session t).active = true) (other : t ≠ k.scheduled) :
    ∃ owner m later context, Parked h k t owner m later ∧ m.saved = some context ∧
      (k.session t).context = context ∧ context.isEmpty = false := by
  obtain ⟨owner, m, later, parked⟩ := run.exists_parked active other
  obtain ⟨earlier, rfl⟩ := parked.history
  have inside : m ∈ later ++ m :: earlier := List.mem_append_right _ List.mem_cons_self
  obtain ⟨context, saved, full⟩ := saves m inside (by rw [parked.slot]; rfl)
  exact ⟨owner, m, later, context, parked, saved, parked.flow context saved, full⟩

theorem not_panicsOn {m : Moment} (run : Run (.new files arena storage) (m :: h) k) :
    m.decided.panicsOn m.transfer = false := by
  obtain ⟨_, _, step⟩ := run.latest
  cases transfer : m.transfer with
  | switch source target =>
    rw [transfer] at step
    obtain ⟨context, saved, full⟩ := step.flow_of_switch
    have flow : (m.decided.session target).context = context := Option.some_inj.mp saved
    rw [Kernel.panicsOn, flow]
    exact full
  | stay | launch _ | resume _ _ | idle => rfl

/-- In a run that saves every flow it suspends, each terminal in use that does not have the
processor waits with the flow saved when it lost the processor and with the owner it had then. A
tick therefore stays only where no other terminal is in use, and else switches to the first one
that is, where a flow always waits. -/
theorem terminals_wait (run : Run (.new files arena storage) h k) (saves : ∀ m ∈ h, m.Saves) :
    (∀ t, (k.session t).active = true → t ≠ k.scheduled →
      ∃ owner m later context, Parked h k t owner m later ∧ m.saved = some context ∧
        (k.session t).context = context ∧ context.isEmpty = false) ∧
    ((∀ t, t ≠ k.scheduled → (k.session t).active = false) → k.tick = (k, .stay)) ∧
    (∀ t, t ≠ k.scheduled → (k.session t).active = true →
      ∃ target owner, k.FirstActive k.scheduled target ∧
        (k.session target).owner = some owner ∧
        k.tick = (k.schedule target owner, .switch k.scheduled target)) ∧
    ∀ e ∈ h, e.decided.panicsOn e.transfer = false := by
  refine ⟨fun t active other => run.exists_flow saves active other, Kernel.tick_of_alone, ?_, ?_⟩
  · intro t other active
    obtain ⟨target, first⟩ := Kernel.exists_firstActive other active
    obtain ⟨_, differs⟩ := Kernel.nextActive?_of_firstActive first
    have ⟨_, _, _, _, inUse, _⟩ := first
    obtain ⟨owner, m, later, context, parked, _, flow, full⟩ := run.exists_flow saves inUse differs
    exact ⟨target, owner, first, parked.seated,
      Kernel.tick_of_firstActive first parked.seated (flow ▸ full)⟩
  · intro e inside
    obtain ⟨later, earlier, rfl⟩ := List.append_of_mem inside
    obtain ⟨_, upTo⟩ := run.exists_earlier
    exact upTo.not_panicsOn

end Run

namespace Sample

theorem console_played (a : Action) (earlier : List Action) :
    (played (a :: earlier)).2.console = ((played earlier).2.act a).1.console :=
  Moment.console_after ⟨(played earlier).2, a, some flow⟩

theorem displayed_started : (played [.start]).2.console.displayed = .first := by
  have ready : (played []).2.Startable shellName shell 0 := startable rfl rfl
  obtain ⟨_, _, console⟩ := Kernel.start_launches ready
  rw [console_played, console]
  rfl

/-- The roster once a second terminal was selected. -/
def selected : Roster :=
  ({ started.begin TerminalId.first.next 1 with scheduled := TerminalId.first.next }).park
    (.launch ⟨1, shell.entry, userStackTop, .terminal .first⟩) (some flow)

theorem run_selected : Run shellKernel (played [.switchTerminal 1, .start]).1
    (played [.switchTerminal 1, .start]).2 :=
  run_played ⟨by simp, ⟨by simp, trivial⟩⟩

theorem roster_selected : (played [.switchTerminal 1, .start]).2.roster = selected := by
  have begins : Action.Begins [.start] := ⟨by decide, trivial⟩
  have files := (run_played begins).fixed.1
  have room : (played [.start]).2.processes.free? = some 1 := by
    rw [Kernel.free?_eq_roster, roster_started]
    rfl
  have ready : (played [.start]).2.Startable shellName shell 1 := startable files room
  have hidden : (1 : TerminalId) ≠ (played [.start]).2.console.displayed := by
    rw [displayed_started]
    decide
  have unused : ((played [.start]).2.session 1).active = false := by
    rw [← Kernel.active_roster, roster_started]
    decide +kernel
  obtain ⟨transfer, after⟩ := Kernel.switchTerminal_launches hidden unused ready
  rw [roster_played, transfer, after, ← Kernel.scheduled_roster, roster_started]
  rfl

theorem seats_selected {k : Kernel} (same : k.roster = selected) :
    k.scheduled = 1 ∧ (k.session .first).active = true ∧ (k.session 2).active = false := by
  refine ⟨?_, ?_, ?_⟩
  · rw [← Kernel.scheduled_roster, same]
    decide +kernel
  · rw [← Kernel.active_roster, same]
    decide +kernel
  · rw [← Kernel.active_roster, same]
    decide +kernel

theorem firstActive_selected {k : Kernel} (same : k.roster = selected) {target : TerminalId}
    (first : k.FirstActive k.scheduled target) : target = .first := by
  obtain ⟨scheduled, _, unused⟩ := seats_selected same
  rw [scheduled] at first
  obtain ⟨steps, some, few, rfl, active, _⟩ := first
  match steps, some, few with
  | 1, _, _ =>
    have here : TerminalId.after 1 1 = 2 := rfl
    rw [here, unused] at active
    cases active
  | 2, _, _ => rfl

end Sample

/-- The first shell waits while one on another terminal runs: a tick switches back to it. -/
theorem terminals_wait_selected :
    Run Sample.shellKernel (Sample.played [.switchTerminal 1, .start]).1
        (Sample.played [.switchTerminal 1, .start]).2 ∧
      (∀ m ∈ (Sample.played [.switchTerminal 1, .start]).1, m.Saves) ∧
      (Sample.played [.switchTerminal 1, .start]).2.tick.2 = .switch 1 .first := by
  obtain ⟨scheduled, active, unused⟩ := Sample.seats_selected Sample.roster_selected
  have other : TerminalId.first ≠ (Sample.played [.switchTerminal 1, .start]).2.scheduled := by
    rw [scheduled]
    decide
  obtain ⟨target, owner, first, seated, tick⟩ :=
    (Run.terminals_wait Sample.run_selected Sample.saves_played).2.2.1 .first other active
  obtain rfl := Sample.firstActive_selected Sample.roster_selected first
  refine ⟨Sample.run_selected, Sample.saves_played, ?_⟩
  rw [tick, scheduled]

end TerminalKernel

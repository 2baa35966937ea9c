import TerminalKernel.Proofs.Incarnation

/-!
# Ending a process returns to its caller

A process on top of another ends by resuming the flow that was saved when it was launched, and its
caller is then the process that runs. Flows saved at the launch of a terminal's first process are
resumed by the scheduler or by nobody, but never by the end of a process.
-/

namespace TerminalKernel

/-- A flow was saved at the launch of a process that is its own parent. -/
def Moment.SavesForRoot (m : Moment) (context : SavedContext) : Prop :=
  m.saved = some context ∧ ∃ root, m.Launches root ∧ m.after.parent? root = some root

namespace Run

variable {files : FileSystem} {arena : Arena} {storage : Kernel.Storage} {h : List Moment}
  {k : Kernel}

/-- The flow that waits for a process on top of another was saved when that process was
launched. -/
theorem exists_saved (run : Run (.new files arena storage) h k) (saves : ∀ m ∈ h, m.Saves)
    {pid : ProcessId} {p : ProcessRecord TerminalId} (live : k.processes.process? pid = some p)
    (child : p.parent ≠ pid) :
    ∃ m later, Since h pid m later ∧ Called k pid p.parent m later ∧
      m.after.parent? pid = some p.parent ∧ m.saved = some p.callerContext := by
  have link : k.roster.link? pid = some p.link := by
    simp only [Kernel.roster, live, Option.map_some]
  obtain ⟨m, later, since, launched, called⟩ := run.exists_since link
  have called := called child
  refine ⟨m, later, since, called, ?_, ?_⟩
  · rw [← Kernel.parent?_roster, Roster.parent?, launched]
    rfl
  · obtain ⟨context, saved, _⟩ := saves m since.mem (by rw [called.slot]; rfl)
    have kept := called.saved
    rw [saved, Option.getD_some, Kernel.savedContext?, live, Option.map_some, Option.some_inj]
      at kept
    rw [saved, kept]

/-- What the end of a process on top of another comes to. -/
theorem act_resumes (run : Run (.new files arena storage) h k) {a : Action} {status : UInt8}
    (ends : a.exitStatus? = some status) {pid : ProcessId} {p : ProcessRecord TerminalId}
    (running : k.current = .ok (pid, p)) (child : p.parent ≠ pid) :
    (k.act a).2 = .resume p.callerContext status ∧ (k.act a).1.roster.Sound ∧
      ((k.act a).1.session (k.act a).1.scheduled).owner = some p.parent ∧
      (k.act a).1.scheduled = p.terminal := by
  obtain ⟨current, live⟩ := Kernel.current_eq_ok running
  have owner := run.currentPid?_eq_owner.symm.trans current
  have link : k.roster.link? pid = some p.link := by
    simp only [Kernel.roster, live, Option.map_some]
  have here : p.terminal = k.scheduled := run.sound.terminal_of_owner owner link
  have ready : a = .start → k.scheduled = .first ∧ (k.session .first).active = false := by
    rintro rfl
    cases ends
  have sound := run.sound.step (Kernel.act_step_of_owner run.sound run.onStack a ready)
  obtain ⟨rest, stacked⟩ := run.sound.line_of_owner owner
  have others : (k.session p.terminal).processCount - 1 ≠ 0 := by
    intro none
    rw [here] at none
    obtain rfl := (stacked.last_iff link).mp (.inl none)
    exact child (stacked.parent_eq link)
  obtain ⟨transfer, after⟩ := Kernel.halt_resume running others child status
  rw [← k.act_of_exitStatus? ends] at transfer after
  have scheduled : (k.act a).1.scheduled = p.terminal := by
    rw [← Kernel.scheduled_roster, after, here]
    rfl
  refine ⟨transfer, sound, ?_, scheduled⟩
  rw [scheduled]
  change ((k.act a).1.roster.seat p.terminal).owner = some p.parent
  rw [after, Roster.seat_giveBack, if_pos rfl]

/-- Only the end of a process on top of another resumes a flow. -/
theorem current_of_resume {m : Moment} (run : Run (.new files arena storage) (m :: h) k)
    {context : SavedContext} {status : UInt8} (resumes : m.transfer = .resume context status) :
    ∃ pid p, m.before.currentPid? = some pid ∧ m.before.processes.process? pid = some p ∧
      p.parent ≠ pid ∧ p.callerContext = context := by
  obtain ⟨before, _, step⟩ := run.latest
  rw [resumes] at step
  generalize m.decided.roster = after at step
  cases step with
  | @resume pid l _ _ owner live child _ saved =>
    have saved : m.before.savedContext? (.parent pid) = some context := saved
    rw [Kernel.savedContext?, Option.map_eq_some_iff] at saved
    obtain ⟨p, found, same⟩ := saved
    have link : p.link = l := by
      simp only [Kernel.roster, found, Option.map_some, Option.some_inj] at live
      exact live
    subst link
    exact ⟨pid, p, before.currentPid?_eq_owner.trans owner, found, child, same⟩

/-- In a run that saves every flow it suspends, the end of a process on top of another resumes the
flow saved when that process was launched, and with it the process that launched it, which has
waited since and runs again. Every flow resumed in the run is one of these, so that the flow saved
for a terminal's first process is never resumed by the end of a process. -/
theorem halt_returns (run : Run (.new files arena storage) h k) (saves : ∀ m ∈ h, m.Saves) :
    (∀ a status pid p, a.exitStatus? = some status → k.current = .ok (pid, p) → p.parent ≠ pid →
      ∃ m later context, Since h pid m later ∧ Called k pid p.parent m later ∧
        m.saved = some context ∧ (k.act a).2 = .resume context status ∧
        (k.act a).1.Runs p.terminal p.parent ∧
        ∀ address, ((k.act a).1.withStackPointer address).OnStack →
          ((k.act a).1.withStackPointer address).currentPid? = some p.parent) ∧
    (∀ later e earlier context status, h = later ++ e :: earlier →
      e.transfer = .resume context status →
      ∃ m pid parent, m ∈ earlier ∧ e.before.currentPid? = some pid ∧ m.Launches pid ∧
        m.after.parent? pid = some parent ∧ parent ≠ pid ∧ m.saved = some context) ∧
    ∀ m ∈ h, ∀ context, m.SavesForRoot context → (∀ e ∈ h, e.saved = some context → e = m) →
      ∀ e ∈ h, ∀ status, e.transfer ≠ .resume context status := by
  have origin : ∀ later e earlier context status, h = later ++ e :: earlier →
      e.transfer = .resume context status →
      ∃ m pid parent, m ∈ earlier ∧ e.before.currentPid? = some pid ∧ m.Launches pid ∧
        m.after.parent? pid = some parent ∧ parent ≠ pid ∧ m.saved = some context := by
    rintro later e earlier context status rfl resumes
    obtain ⟨_, upTo⟩ := run.exists_earlier
    obtain ⟨pid, p, current, live, child, same⟩ := upTo.current_of_resume resumes
    have inside : ∀ m ∈ earlier, m ∈ later ++ e :: earlier := fun m member =>
      List.mem_append_right _ (List.mem_cons_of_mem _ member)
    obtain ⟨m, _, since, _, parent, saved⟩ :=
      upTo.latest.1.exists_saved (fun m member => saves m (inside m member)) live child
    exact ⟨m, pid, p.parent, since.mem, current, since.launches, parent, child, same ▸ saved⟩
  refine ⟨?_, origin, ?_⟩
  · intro a status pid p ends running child
    obtain ⟨m, later, since, called, _, saved⟩ :=
      run.exists_saved saves (Kernel.current_eq_ok running).2 child
    obtain ⟨transfer, sound, owner, scheduled⟩ := run.act_resumes ends running child
    refine ⟨m, later, p.callerContext, since, called, saved, transfer, ?_, ?_⟩
    · exact scheduled ▸ Kernel.runs_of_owner sound owner
    · intro address stack
      have same : ((k.act a).1.withStackPointer address).roster.Sound := sound
      exact (Kernel.currentPid?_eq_owner same stack).trans owner
  · rintro m _ context ⟨_, root, launches, self⟩ unique e inside status resumes
    obtain ⟨later, earlier, split⟩ := List.append_of_mem inside
    obtain ⟨m', pid, parent, member, _, launches', parent_eq, child, saved⟩ :=
      origin later e earlier context status split resumes
    have same : m' = m := by
      refine unique m' ?_ saved
      rw [split]
      exact List.mem_append_right _ (List.mem_cons_of_mem _ member)
    subst same
    obtain rfl := launches.unique launches'
    rw [self, Option.some_inj] at parent_eq
    exact child parent_eq.symm

end Run

theorem Sample.current_nested {h : List Moment} {k : Kernel} (run : Run Sample.shellKernel h k)
    (same : k.roster = Sample.nested) : ∃ p, k.current = .ok (1, p) ∧ p.parent = 0 := by
  have link : k.roster.link? 1 = some ⟨0, .first⟩ := by
    rw [same]
    decide +kernel
  simp only [Kernel.roster, Option.map_eq_some_iff] at link
  obtain ⟨p, live, tied⟩ := link
  have current := run.currentPid?_eq_owner.trans (Sample.seat_nested same).2
  exact ⟨p, Kernel.current_of_currentPid? current live, congrArg Link.parent tied⟩

/-- The second of two shells ends with status 3: the first one sees it. -/
theorem halt_returns_nested :
    Run Sample.shellKernel (Sample.played [.execute shellName, .start]).1
        (Sample.played [.execute shellName, .start]).2 ∧
      (∀ m ∈ (Sample.played [.execute shellName, .start]).1, m.Saves) ∧
      ((Sample.played [.execute shellName, .start]).2.act (.halt 3)).2 = .resume Sample.flow 3 := by
  obtain ⟨p, running, parent⟩ := Sample.current_nested Sample.run_nested Sample.roster_nested
  have child : p.parent ≠ 1 := by
    rw [parent]
    decide
  obtain ⟨m, _, context, since, _, saved, resumes, _⟩ :=
    (Run.halt_returns Sample.run_nested Sample.saves_played).1 (.halt 3) 3 1 p rfl running child
  rw [Sample.saved_played since.mem, Option.some_inj] at saved
  exact ⟨Sample.run_nested, Sample.saves_played, saved ▸ resumes⟩

end TerminalKernel

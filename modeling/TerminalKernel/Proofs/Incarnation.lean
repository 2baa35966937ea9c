import TerminalKernel.Proofs.ProcessTree

/-!
# One process through a run

Numbers of processes are used again, so that a live number alone does not tell which process it is.
A step either launches a process or keeps it with its place in the tree and its saved caller, and no
step launches one over a process that lives on. The history of a run therefore tells, for every live
process, the moment that launched it.
-/

namespace TerminalKernel

namespace Roster

variable {r r' : Roster} {t u : TerminalId} {pid q : ProcessId} {transfer : Transfer} {l : Link}

/-! ## What a step keeps -/

theorem saved?_begin (r : Roster) (t : TerminalId) (pid : ProcessId) (slot : SaveSlot) :
    (r.begin t pid).saved? slot = if slot = .parent pid then some .empty else r.saved? slot :=
  Function.update_apply ..

theorem saved?_finish (r : Roster) (t : TerminalId) (pid : ProcessId) (slot : SaveSlot) :
    (r.finish pid t).saved? slot = if slot = .parent pid then none else r.saved? slot :=
  Function.update_apply ..

theorem kept_of_begin {new : ProcessId} (live : (r.begin t new).link? pid = some l)
    (other : pid ≠ new) :
    r.link? pid = some l ∧ (r.begin t new).saved? (.parent pid) = r.saved? (.parent pid) := by
  rw [link?_begin, if_neg other] at live
  refine ⟨live, ?_⟩
  rw [saved?_begin, if_neg]
  rintro ⟨⟩
  exact other rfl

theorem kept_of_finish {ended : ProcessId} (live : (r.finish ended t).link? pid = some l) :
    r.link? pid = some l ∧ (r.finish ended t).saved? (.parent pid) = r.saved? (.parent pid) := by
  rw [link?_finish] at live
  split at live
  · cases live
  · rename_i other
    refine ⟨live, ?_⟩
    rw [saved?_finish, if_neg]
    rintro ⟨⟩
    exact other rfl

/-- A process that is live after a step was launched by it, or was live before with the same place
in the tree and the same saved caller. -/
theorem Step.launched_or_kept {current? : Option ProcessId} (step : Step r current? transfer r')
    (live : r'.link? pid = some l) :
    transfer.Launches pid ∨
      r.link? pid = some l ∧ r'.saved? (.parent pid) = r.saved? (.parent pid) := by
  cases step with
  | stay => exact .inr ⟨live, rfl⟩
  | turn _ _ _ _ _ => exact .inr ⟨live, rfl⟩
  | @execute launch _ _ _ =>
    by_cases same : pid = launch.pid
    · exact .inl ⟨launch, rfl, same.symm⟩
    · exact .inr (kept_of_begin live same)
  | @fresh t launch _ _ _ _ =>
    by_cases same : pid = launch.pid
    · exact .inl ⟨launch, rfl, same.symm⟩
    · exact .inr (kept_of_begin (t := t) live same)
  | @resume ended p _ _ _ _ _ _ _ => exact .inr (kept_of_finish (t := p.terminal) live)
  | @idle ended p _ _ _ => exact .inr (kept_of_finish (t := p.terminal) live)
  | @relaunch ended p launch _ _ _ _ _ _ =>
    by_cases same : pid = launch.pid
    · exact .inl ⟨launch, rfl, same.symm⟩
    · obtain ⟨begun, saved⟩ := kept_of_begin live same
      obtain ⟨kept, saved'⟩ := kept_of_finish begun
      exact .inr ⟨kept, saved.trans saved'⟩

/-- No step launches a process over one that lives on: the number is free, or it is that of the
scheduled terminal's only process, which ends. -/
theorem Sound.launched_free (sound : Sound r)
    (step : Step r (r.seat r.scheduled).owner transfer r') (launches : transfer.Launches pid) :
    r.link? pid = none ∨ Stacked r r.scheduled [pid] := by
  obtain ⟨launch, rfl, rfl⟩ := launches
  cases step with
  | execute _ free _ => exact .inl free
  | fresh _ _ free _ => exact .inl free
  | @relaunch ended p _ current live last _ free _ =>
    rw [link?_finish] at free
    split at free
    · rename_i same
      rw [same]
      obtain ⟨rest, stacked⟩ := sound.line_of_owner current
      rw [sound.terminal_of_owner current live] at last
      obtain rfl := (stacked.last_iff live).mp last
      exact .inr stacked
    · exact .inl free

theorem link_of_begin {line : List ProcessId} (lined : Lined r t line)
    (owner : line ≠ [] → (r.seat t).owner = line.head?)
    (live : (r.begin t pid).link? pid = some l) : l = ⟨line.head?.getD pid, t⟩ := by
  rw [link?_begin, if_pos rfl, lined.parentFor owner, Option.some_inj] at live
  exact live.symm

/-- A process on top of another is launched by that one, which is to be resumed when it ends. -/
theorem Sound.launched_child (sound : Sound r)
    (step : Step r (r.seat r.scheduled).owner transfer r') (launches : transfer.Launches pid)
    (live : r'.link? pid = some l) (child : l.parent ≠ pid) :
    (r.seat r.scheduled).owner = some l.parent ∧ transfer.saveSlot? = some (.parent pid) ∧
      r'.saved? (.parent pid) = some .empty := by
  obtain ⟨launch, rfl, rfl⟩ := launches
  cases step with
  | execute _ _ save =>
    obtain ⟨line, stacked⟩ := sound.stacked r.scheduled
    obtain rfl := link_of_begin stacked.toLined (fun _ => stacked.owner) live
    cases line with
    | nil => exact absurd rfl child
    | cons first rest =>
      refine ⟨stacked.owner, congrArg some save, ?_⟩
      rw [saved?_begin, if_pos rfl]
  | @fresh t _ unused _ _ _ =>
    obtain rfl := link_of_begin (sound.line_of_unused unused).toLined
      (fun some => absurd rfl some) live
    exact absurd rfl child
  | @relaunch ended p _ current ended_live last _ _ _ =>
    obtain ⟨rest, stacked⟩ := sound.line_of_owner current
    rw [sound.terminal_of_owner current ended_live] at last live
    obtain rfl := (stacked.last_iff ended_live).mp last
    obtain rfl := link_of_begin stacked.toLined.finish (fun some => absurd rfl some) live
    exact absurd rfl child

/-- While a process lives on, so does its parent. -/
theorem Sound.not_launches_parent (sound : Sound r)
    (step : Step r (r.seat r.scheduled).owner transfer r') (live : r.link? pid = some l)
    (child : l.parent ≠ pid) : ¬ transfer.Launches l.parent := by
  intro launches
  have on := sound.parent_on live
  rcases sound.launched_free step launches with free | stacked
  · exact not_on_of_free free on
  · have here : l.terminal = r.scheduled :=
      on.unique ((stacked.mem l.parent).mp List.mem_cons_self)
    have inside := (stacked.mem pid).mpr ⟨l, live, here⟩
    exact child (List.mem_singleton.mp inside).symm

/-! ## Saving -/

/-- A flow is saved in the record of a process only when that process is launched. -/
theorem Step.launches_of_slot {current? : Option ProcessId} (step : Step r current? transfer r')
    (slot : transfer.saveSlot? = some (.parent pid)) : transfer.Launches pid := by
  cases step with
  | @execute l _ _ save | @relaunch _ _ l _ _ _ _ _ save =>
    refine ⟨l, rfl, ?_⟩
    rw [Transfer.saveSlot?, save, Option.some_inj, SaveSlot.parent.injEq] at slot
    exact slot
  | fresh _ _ _ save =>
    rw [Transfer.saveSlot?, save] at slot
    cases slot
  | stay | resume _ _ _ _ _ | idle _ _ _ | turn _ _ _ _ _ => cases slot

@[simp] theorem link?_park (r : Roster) (transfer : Transfer) (saved : Option SavedContext) :
    (r.park transfer saved).link? = r.link? := by
  unfold Roster.park
  split <;> rfl

theorem saved?_park (r : Roster) (saved : Option SavedContext) (slot : SaveSlot) :
    (r.park transfer saved).saved? slot =
      if transfer.saveSlot? = some slot then (r.saved? slot).map (saved.getD ·)
      else r.saved? slot := by
  unfold Roster.park
  cases transfer.saveSlot? with
  | none => simp
  | some named =>
    cases saved with
    | none => simp
    | some context =>
      simp only [save, Function.update_apply, Option.some_inj, Option.getD_some, eq_comm (a := slot)]
      split
      · rename_i same
        rw [same]
      · rfl

end Roster

theorem Transfer.Launches.unique {transfer : Transfer} {p q : ProcessId}
    (hp : transfer.Launches p) (hq : transfer.Launches q) : p = q := by
  obtain ⟨l, rfl, rfl⟩ := hp
  obtain ⟨l', same, rfl⟩ := hq
  cases same
  rfl

/-! ## Where a process comes from -/

/-- The moment launched the process, and it has been the same process since. -/
structure Since (h : List Moment) (pid : ProcessId) (m : Moment) (later : List Moment) : Prop where
  history : ∃ earlier, h = later ++ m :: earlier
  launches : m.Launches pid
  kept : ∀ e ∈ later, e.Keeps pid

/-- The moment was a call of another process, which has been waiting since: the flow saved there is
the one kept for the new process. -/
structure Called (k : Kernel) (pid caller : ProcessId) (m : Moment) (later : List Moment) :
    Prop where
  current : m.before.currentPid? = some caller
  waiting : ∀ e ∈ m :: later, e.Keeps caller
  slot : m.transfer.saveSlot? = some (.parent pid)
  saved : k.savedContext? (.parent pid) = some (m.saved.getD .empty)

theorem Since.mem {h : List Moment} {pid : ProcessId} {m : Moment} {later : List Moment}
    (since : Since h pid m later) : m ∈ h := by
  obtain ⟨earlier, rfl⟩ := since.history
  exact List.mem_append_right _ List.mem_cons_self

theorem Since.cons {h : List Moment} {pid : ProcessId} {m e : Moment} {later : List Moment}
    (since : Since h pid m later) (keeps : e.Keeps pid) : Since (e :: h) pid m (e :: later) where
  history := by
    obtain ⟨earlier, rfl⟩ := since.history
    exact ⟨earlier, rfl⟩
  launches := since.launches
  kept := List.forall_mem_cons.mpr ⟨keeps, since.kept⟩

theorem Called.cons {k k' : Kernel} {pid caller : ProcessId} {m e : Moment} {later : List Moment}
    (called : Called k pid caller m later) (keeps : e.Keeps caller)
    (saved : k'.savedContext? (.parent pid) = k.savedContext? (.parent pid)) :
    Called k' pid caller m (e :: later) where
  current := called.current
  waiting := by
    obtain ⟨first, rest⟩ := List.forall_mem_cons.mp called.waiting
    exact List.forall_mem_cons.mpr ⟨first, List.forall_mem_cons.mpr ⟨keeps, rest⟩⟩
  slot := called.slot
  saved := saved.trans called.saved

theorem Moment.keeps_of_link? {m : Moment} {pid : ProcessId} {l l' : Link}
    (before : m.before.roster.link? pid = some l) (after : m.after.roster.link? pid = some l')
    (notLaunched : ¬ m.Launches pid) : m.Keeps pid where
  before := Kernel.isLive_iff_link?.mpr ⟨l, before⟩
  after := Kernel.isLive_iff_link?.mpr ⟨l', after⟩
  notLaunched := notLaunched

namespace Run

variable {files : FileSystem} {arena : Arena} {storage : Kernel.Storage} {h : List Moment}
  {k : Kernel}

/-- A process that the latest moment launched on top of another was called by it. -/
theorem called_of_launches {m : Moment} (run : Run (.new files arena storage) (m :: h) k)
    {pid : ProcessId} {l : Link} (live : k.roster.link? pid = some l) (launches : m.Launches pid)
    (child : l.parent ≠ pid) : Called k pid l.parent m [] := by
  obtain ⟨before, same, step⟩ := run.latest
  obtain ⟨caller, callerLive, _⟩ := run.sound.parent_on live
  rw [same, Moment.roster_after, Roster.link?_park] at live callerLive
  obtain ⟨owner, slot, saved⟩ := before.sound.launched_child step launches live child
  obtain ⟨_, ownerLive, _⟩ := before.sound.on_of_owner owner
  refine ⟨before.currentPid?_eq_owner.trans owner, ?_, slot, ?_⟩
  · intro e inside
    obtain rfl := List.mem_singleton.mp inside
    have stays : e.after.roster.link? l.parent = some caller := by
      rw [Moment.roster_after, Roster.link?_park]
      exact callerLive
    exact Moment.keeps_of_link? ownerLive stays fun both => child (both.unique launches)
  · change k.roster.saved? (.parent pid) = _
    rw [same, Moment.roster_after, Roster.saved?_park, if_pos slot, saved, Option.map_some]

/-- Every live process was launched at a moment of the run, and one on top of another was called by
that one. -/
theorem exists_since (run : Run (.new files arena storage) h k) {pid : ProcessId} {l : Link}
    (live : k.roster.link? pid = some l) :
    ∃ m later, Since h pid m later ∧ m.after.roster.link? pid = some l ∧
      (l.parent ≠ pid → Called k pid l.parent m later) := by
  induction h generalizing k with
  | nil =>
    cases run
    simp [Kernel.roster, Kernel.new, Kernel.withStackPointer] at live
  | cons m h ih =>
    obtain ⟨before, same, step⟩ := run.latest
    have after : m.after.roster.link? pid = some l := same ▸ live
    by_cases launches : m.Launches pid
    · exact ⟨m, [], ⟨⟨h, rfl⟩, launches, fun _ none => absurd none List.not_mem_nil⟩, after,
        run.called_of_launches live launches⟩
    · have decided : m.decided.roster.link? pid = some l := by
        rwa [Moment.roster_after, Roster.link?_park] at after
      obtain ⟨was, saved⟩ := (step.launched_or_kept decided).resolve_left launches
      obtain ⟨m₀, later, since, link, called⟩ := ih before was
      refine ⟨m₀, m :: later, since.cons (Moment.keeps_of_link? was after launches), link,
        fun child => (called child).cons ?_ ?_⟩
      · obtain ⟨_, wasLive, _⟩ := before.sound.parent_on was
        obtain ⟨_, isLive, _⟩ := run.sound.parent_on live
        exact Moment.keeps_of_link? wasLive (same ▸ isLive)
          (before.sound.not_launches_parent step was child)
      · change k.roster.saved? (.parent pid) = m.before.roster.saved? (.parent pid)
        rw [same, Moment.roster_after, Roster.saved?_park,
          if_neg fun slot => launches (step.launches_of_slot slot), saved]

end Run

end TerminalKernel

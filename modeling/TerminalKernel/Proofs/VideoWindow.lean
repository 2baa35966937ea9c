import TerminalKernel.Proofs.Turns
import TerminalKernel.Proofs.Updates

/-!
# The video window

Where the video window has to lead depends on who is scheduled and who is displayed, and the two
change without each other. The window is closed until something maps it; every action then either
leaves alone all that matters to it or maps it anew (`viewport_act`), so that it goes on showing the
scheduled terminal's screen.
-/

namespace TerminalKernel

/-! ## What matters to the window -/

structure Viewport where
  pages : ScreenPages
  scheduled : TerminalId
  displayed : TerminalId
  /-- Where the table behind the window lies. -/
  table : Nat
  /-- The directory entry of the window. -/
  entry : PageEntry
  /-- The first entry of the table behind it. -/
  leaf : PageEntry

namespace Viewport

/-- Nothing was mapped yet. -/
structure Closed (v : Viewport) : Prop where
  entry : v.entry = .unused
  leaf : v.leaf = .unused

/-- The window leads to the scheduled terminal's screen. -/
structure Open (v : Viewport) : Prop where
  entry : v.entry = ⟨v.table, .userPage⟩
  leaf : v.leaf =
    ⟨if v.scheduled = v.displayed then vgaTextMemory else v.pages.page v.scheduled, .userPage⟩

/-- The window was left alone, and so were those whom it depends on, or it was mapped anew. -/
def Step (v v' : Viewport) : Prop := v' = v ∨ v'.Open ∧ v'.pages = v.pages

variable {v v' : Viewport}

theorem Step.closed_or_open (step : v.Step v') (before : v.Closed ∨ v.Open) :
    v'.Closed ∨ v'.Open := by
  rcases step with rfl | ⟨shown, _⟩
  · exact before
  · exact .inr shown

theorem Step.pages (step : v.Step v') : v'.pages = v.pages := by
  rcases step with rfl | ⟨_, same⟩
  · rfl
  · exact same

end Viewport

namespace Kernel

def viewport (k : Kernel) : Viewport where
  pages := k.console.pages
  scheduled := k.scheduled
  displayed := k.console.displayed
  table := k.space.tableAddress
  entry := k.space.directory[videoEntry]
  leaf := k.space.videoTable[0]

variable {k k' : Kernel} {pid : ProcessId} {t : TerminalId}

theorem videoMapped_of_closed (closed : k.viewport.Closed) : k.videoMapped = false := by
  have leaf : k.space.videoTable[0] = .unused := closed.leaf
  rw [videoMapped, AddressSpace.videoTarget, leaf]
  rfl

theorem videoMapped_of_open (shown : k.viewport.Open) : k.videoMapped = true := by
  have leaf : k.space.videoTable[0] = _ := shown.leaf
  rw [videoMapped, AddressSpace.videoTarget, leaf]
  rfl

theorem closed_or_open_iff (k : Kernel) :
    k.viewport.Closed ∨ k.viewport.Open ↔
      k.space.directory[videoEntry] = .unused ∧ k.space.videoTable[0] = .unused ∨
        k.space.directory[videoEntry] = ⟨k.space.tableAddress, .userPage⟩ ∧
          k.space.videoTable[0] =
            ⟨if k.scheduled = k.console.displayed then vgaTextMemory
              else k.console.pages.page k.scheduled, .userPage⟩ :=
  ⟨.imp (fun closed => ⟨closed.entry, closed.leaf⟩) fun shown => ⟨shown.entry, shown.leaf⟩,
    .imp (fun closed => ⟨closed.1, closed.2⟩) fun shown => ⟨shown.1, shown.2⟩⟩

/-! ## What leaves the window alone -/

@[simp] theorem viewport_withMemory (k : Kernel) (memory : Memory) :
    { k with memory }.viewport = k.viewport := rfl

theorem viewport_withConsole (k : Kernel) {console : Console}
    (displayed : console.displayed = k.console.displayed)
    (pages : console.pages = k.console.pages) : { k with console }.viewport = k.viewport := by
  simp only [viewport, displayed, pages]

@[simp] theorem viewport_withLive (k : Kernel) (live : Surface) :
    { k with console := { k.console with live } }.viewport = k.viewport := rfl

@[simp] theorem viewport_withStackPointer (k : Kernel) (address : Option Nat) :
    (k.withStackPointer address).viewport = k.viewport := rfl

theorem viewport_enter (k : Kernel) (pid : ProcessId) : (k.enter pid).viewport = k.viewport := by
  have entry : (k.enter pid).space.directory[videoEntry] = k.space.directory[videoEntry] := by
    simp only [enter, AddressSpace.mapProgram]
    rw [Vector.getElem_set_ne (by decide) (by decide) (by decide),
      Vector.getElem_set_ne (by decide) (by decide) (by decide)]
  simp only [viewport, entry]
  rfl

theorem viewport_update (update : Update pid t k k') : k'.viewport = k.viewport := by
  cases update with
  | enter q => exact k.viewport_enter q
  | screen s =>
    exact k.viewport_withConsole (k.console.displayed_setScreen t s) (k.console.pages_setScreen t s)
  | slot | tail => exact k.viewport_withMemory _
  | emit | clock | record | line | cursor | session | insert | release => rfl

theorem viewport_performs (performs : Performs pid t k k') : k'.viewport = k.viewport := by
  induction performs with
  | refl => rfl
  | tail _ update ih => exact (viewport_update update).trans ih

theorem viewport_setPhysicalByte (k : Kernel) (address : Nat) (byte : UInt8) :
    (k.setPhysicalByte address byte).viewport = k.viewport := by
  unfold setPhysicalByte
  split
  · exact k.viewport_withLive _
  · split
    · exact k.viewport_withConsole (Console.displayed_setTerminal _ _ _) rfl
    · exact k.viewport_withMemory _

theorem viewport_storeBytes (k : Kernel) (address : Nat) (bytes : List UInt8) :
    (k.storeBytes address bytes).viewport = k.viewport := by
  induction bytes generalizing k address with
  | nil => rfl
  | cons b rest ih =>
    unfold storeBytes
    split
    · rw [ih, viewport_setPhysicalByte]
    · exact ih k (address + 1)

theorem viewport_storeBlock (k : Kernel) (address : Nat) (bytes : List UInt8) :
    (k.storeBlock address bytes).viewport = k.viewport := by
  unfold storeBlock
  split
  · rfl
  · split
    · exact k.viewport_withMemory _
    · rfl

theorem viewport_storeUser (k : Kernel) (address : Nat) (bytes : List UInt8) :
    (k.storeUser address bytes).viewport = k.viewport := by
  simp only [storeUser, viewport_storeBlock, viewport_storeBytes]

theorem viewport_receiveKey (k : Kernel) (key : Key) :
    (k.receiveKey key).1.viewport = k.viewport := by
  have displayed := k.console.displayed_receiveKey key
  have pages := k.console.pages_receiveKey key
  unfold receiveKey
  generalize k.console.receiveKey key = result at displayed pages ⊢
  obtain ⟨console, action⟩ := result
  dsimp only at displayed pages ⊢
  split <;> simp only [viewport, moveCursor, emit, displayed, pages]

theorem viewport_print (k : Kernel) (t : TerminalId) (bytes : List UInt8) :
    (k.print t bytes).viewport = k.viewport :=
  viewport_performs (k.performs_print 0 t bytes)

theorem viewport_display (k : Kernel) (t : TerminalId) :
    (k.display t).viewport = { k.viewport with displayed := t } := by
  unfold display
  split
  · rename_i here
    simp only [viewport, here]
  · simp only [viewport, moveCursor, emit, Console.displayed_display, Console.pages_display]

/-! ## What maps the window -/

theorem open_mapScreen (k : Kernel) : (k.mapScreen k.scheduled).viewport.Open where
  entry := by
    simp only [viewport, mapScreen, AddressSpace.mapVideo, Vector.getElem_set_self]
  leaf := by
    simp only [viewport, mapScreen, AddressSpace.mapVideo, Vector.getElem_set_self,
      Console.getD_videoPage, Console.screenAddress]

/-- The display itself is shown to the terminal that is scheduled and displayed. -/
theorem open_mapDisplay (k : Kernel) :
    { k with
      scheduled := k.console.displayed
      space := k.space.mapVideo none }.viewport.Open where
  entry := by
    simp only [viewport, AddressSpace.mapVideo, Vector.getElem_set_self]
  leaf := by
    simp only [viewport, AddressSpace.mapVideo, Vector.getElem_set_self, Option.getD_none, if_true]

theorem viewport_tick (k : Kernel) : k.viewport.Step k.tick.1.viewport := by
  rcases k.tick_cases with same | ⟨next, noted⟩ | ⟨next, owner, _, _, _, _, turned⟩
  · rw [same]
    exact .inl rfl
  · rw [noted]
    exact .inl rfl
  · rw [turned]
    exact .inr ⟨{ k.enter owner with scheduled := next }.open_mapScreen, rfl⟩

/-- A terminal that never ran is displayed for good only when its shell is launched. -/
theorem viewport_displayFresh (k : Kernel) (t : TerminalId) :
    k.viewport.Step (k.displayFresh t).1.viewport := by
  have spawned := viewport_performs
    ((k.display t).performs_spawn 0 t shellName [] (some k.scheduled))
  rw [viewport_display] at spawned
  unfold displayFresh
  dsimp only
  generalize (k.display t).spawn t shellName [] (some k.scheduled) = result at spawned ⊢
  obtain ⟨k', cause | launch⟩ := result
  · -- The launch failed before anything was mapped, and the former terminal is displayed again.
    refine .inl ?_
    have back := (k'.log (.shellNotStarted t cause)).viewport_display k.console.displayed
    have logged : (k'.log (.shellNotStarted t cause)).viewport = k'.viewport := rfl
    rw [back, logged, spawned]
    rfl
  · have shown : k'.console.displayed = t := congrArg Viewport.displayed spawned
    subst shown
    have pages : k'.console.pages = k.console.pages := congrArg Viewport.pages spawned
    exact .inr ⟨k'.open_mapDisplay, pages⟩

theorem viewport_switchTerminal (k : Kernel) (t : TerminalId) :
    k.viewport.Step (k.switchTerminal t).1.viewport := by
  unfold switchTerminal
  split
  · exact .inl rfl
  · split
    · have same := congrArg Viewport.pages (k.viewport_display t)
      exact .inr ⟨(k.display t).open_mapScreen, same⟩
    · split
      · exact .inl (k.viewport_print _ _)
      · exact k.viewport_displayFresh t

theorem viewport_handleKey (k : Kernel) (key : Key) :
    k.viewport.Step (k.handleKey key).1.viewport := by
  rcases k.handleKey_cases key with taken | ⟨-, t, selected⟩
  · rw [taken]
    exact .inl (k.viewport_receiveKey key)
  · rw [selected]
    exact k.viewport_switchTerminal t

/-! ## Every action -/

theorem owner_of_current (sound : k.roster.Sound) (stack : k.OnStack) {p : ProcessRecord TerminalId}
    (running : k.current = .ok (pid, p)) :
    (k.session k.scheduled).owner = some pid ∧ p.terminal = k.scheduled := by
  obtain ⟨current, live⟩ := current_eq_ok running
  have owner := (currentPid?_eq_owner sound stack).symm.trans current
  have link : k.roster.link? pid = some p.link := by
    simp only [roster, live, Option.map_some]
  exact ⟨owner, sound.terminal_of_owner owner link⟩

theorem exists_runsAs (sound : k.roster.Sound) (stack : k.OnStack) :
    ∃ pid, k.RunsAs pid k.scheduled := by
  cases running : k.current with
  | error cause =>
    refine ⟨0, fun q p found => ?_⟩
    rw [running] at found
    cases found
  | ok result =>
    obtain ⟨pid, p⟩ := result
    exact ⟨pid, (owner_of_current sound stack running).2 ▸ runsAs_of_current running⟩

theorem act_mapVideo {address : Nat}
    (inside : programWindow ≤ address ∧ address + 8 ≤ programWindowEnd)
    {p : ProcessRecord TerminalId} (running : k.current = .ok (pid, p)) :
    (k.act (.mapVideo address)).1 = k.mapScreen p.terminal := by
  simp only [act, mapVideo, if_pos inside, running]

theorem viewport_mapVideo (sound : k.roster.Sound) (stack : k.OnStack) (address : Nat) :
    k.viewport.Step (k.mapVideo address).1.viewport := by
  rcases k.mapVideo_cases address with ⟨_, failed⟩ | ⟨_, _, running, mapped⟩
  · rw [failed]
    exact .inl rfl
  · rw [mapped, (owner_of_current sound stack running).2]
    exact .inr ⟨k.open_mapScreen, rfl⟩

theorem viewport_act (sound : k.roster.Sound) (stack : k.OnStack) (a : Action) :
    k.viewport.Step (k.act a).1.viewport := by
  obtain ⟨pid, own⟩ := exists_runsAs sound stack
  have quiet (call : a.isCall = true) (window : ∀ address, a ≠ .mapVideo address) :
      k.viewport.Step (k.act a).1.viewport :=
    .inl (viewport_performs (performs_act own call window))
  cases a with
  | start =>
    refine .inl ?_
    have spawned := k.performs_spawn 0 .first shellName [] (some .first)
    exact (congrArg viewport (fst_ofCall k.start)).trans (viewport_performs spawned)
  | mapVideo address => exact viewport_mapVideo sound stack address
  | store address bytes => exact .inl (k.viewport_storeUser address bytes)
  | tick => exact k.viewport_tick
  | switchTerminal t => exact k.viewport_switchTerminal t
  | key key => exact k.viewport_handleKey key
  | clockTick | emit _ => exact .inl rfl
  | execute _ | halt _ | openFile _ | closeFile _ | read _ _ | write _ _ | getArgs _
  | writeScreen _ _ _ => exact quiet rfl fun _ same => by cases same

end Kernel

theorem Moment.viewport_after (m : Moment) : m.after.viewport = m.decided.viewport := by
  obtain ⟨_, _, same⟩ := m.after_eq
  rw [same]
  rfl

/-! ## Throughout a run -/

namespace Run

variable {files : FileSystem} {arena : Arena} {storage : Kernel.Storage} {h : List Moment}
  {k : Kernel}

theorem current_of_owner (run : Run (.new files arena storage) h k) {pid : ProcessId}
    (owner : (k.session k.scheduled).owner = some pid) :
    ∃ p, k.current = .ok (pid, p) ∧ p.terminal = k.scheduled := by
  obtain ⟨p, live, terminal⟩ := (Kernel.runs_of_owner run.sound owner).live
  have current := run.currentPid?_eq_owner.trans owner
  exact ⟨p, Kernel.current_of_currentPid? current live, terminal⟩

theorem viewport_latest {m : Moment} (run : Run (.new files arena storage) (m :: h) k) :
    m.before.viewport.Step k.viewport := by
  cases run with
  | step run a first saved address _ =>
    rw [Kernel.viewport_withStackPointer, Moment.viewport_after]
    exact Kernel.viewport_act run.sound run.onStack a

theorem closed_or_open (run : Run (.new files arena storage) h k) :
    k.viewport.Closed ∨ k.viewport.Open := by
  induction h generalizing k with
  | nil =>
    cases run with
    | new address _ =>
      refine .inl ⟨?_, ?_⟩
      · simp [Kernel.viewport, Kernel.withStackPointer, Kernel.new, AddressSpace.new]
      · simp [Kernel.viewport, Kernel.withStackPointer, Kernel.new, AddressSpace.new]
  | cons m h ih =>
    exact run.viewport_latest.closed_or_open (ih run.latest.1)

theorem pages_eq (run : Run (.new files arena storage) h k) : k.console.pages = storage.pages := by
  induction h generalizing k with
  | nil =>
    cases run with
    | new _ _ => rfl
  | cons m h ih => exact run.viewport_latest.pages.trans (ih run.latest.1)

theorem videoMapped_of_mem (run : Run (.new files arena storage) h k) {m : Moment} (inside : m ∈ h)
    (mapped : m.before.videoMapped = true) : k.videoMapped = true := by
  induction h generalizing k with
  | nil => cases inside
  | cons latest h ih =>
    have before : latest.before.videoMapped = true := by
      rcases List.mem_cons.mp inside with rfl | earlier
      · exact mapped
      · exact ih run.latest.1 earlier
    rcases run.viewport_latest with same | shown
    · exact (congrArg (fun v => v.leaf.target.isSome) same).trans before
    · exact Kernel.videoMapped_of_open shown.1

/-- In every reachable kernel the video window is closed, or leads to the screen of the scheduled
terminal: to the display if that terminal is displayed, and else to its own page. Once it is mapped
it stays so. -/
theorem video_shows_scheduled (run : Run (.new files arena storage) h k) :
    (k.space.directory[videoEntry] = .unused ∧ k.space.videoTable[0] = .unused ∨
      k.space.directory[videoEntry] = ⟨k.space.tableAddress, .userPage⟩ ∧
        k.space.videoTable[0] =
          ⟨if k.scheduled = k.console.displayed then vgaTextMemory
            else storage.pages.page k.scheduled, .userPage⟩) ∧
    ∀ m ∈ h, m.before.videoMapped = true → k.videoMapped = true :=
  ⟨run.pages_eq ▸ k.closed_or_open_iff.mp run.closed_or_open, fun _ inside mapped =>
    run.videoMapped_of_mem inside mapped⟩

end Run

namespace Sample

theorem owner_started {k : Kernel} (same : k.roster = started) :
    k.scheduled = .first ∧ (k.session k.scheduled).owner = some 0 := by
  have scheduled : k.scheduled = .first := by
    rw [← Kernel.scheduled_roster, same]
    rfl
  have seat : (k.session .first).seat = ⟨some 0, 1, true⟩ := by
    change k.roster.seat .first = _
    rw [same]
    decide +kernel
  rw [scheduled]
  exact ⟨rfl, congrArg Seat.owner seat⟩

theorem run_started : Run shellKernel (played [.start]).1 (played [.start]).2 :=
  run_played ⟨by simp, trivial⟩

theorem run_mapped : Run shellKernel (played [.mapVideo programWindow, .start]).1
    (played [.mapVideo programWindow, .start]).2 :=
  run_played ⟨by simp, ⟨by simp, trivial⟩⟩

theorem viewport_played (a : Action) (earlier : List Action) :
    (played (a :: earlier)).2.viewport = ((played earlier).2.act a).1.viewport :=
  Moment.viewport_after ⟨(played earlier).2, a, some flow⟩

theorem viewport_mapped : (played [.mapVideo programWindow, .start]).2.viewport =
    ((played [.start]).2.mapScreen .first).viewport := by
  obtain ⟨scheduled, owner⟩ := owner_started roster_started
  obtain ⟨p, running, terminal⟩ := run_started.current_of_owner owner
  have inside : programWindow ≤ programWindow ∧ programWindow + 8 ≤ programWindowEnd := by
    unfold programWindow programWindowEnd
    omega
  rw [viewport_played, Kernel.act_mapVideo inside running, terminal, scheduled]

theorem leaf_of_mapped {k k' : Kernel} {t : TerminalId}
    (mapped : k'.viewport = (k.mapScreen t).viewport) (scheduled : k.scheduled = t)
    (displayed : k.console.displayed = t) (shown : k'.viewport.Closed ∨ k'.viewport.Open) :
    k'.space.videoTable[0] = ⟨vgaTextMemory, .userPage⟩ := by
  rcases shown with closed | shown
  · have target := congrArg (·.leaf.target.isSome) mapped
    have video : (k.mapScreen t).viewport.leaf.target = some _ :=
      k.space.videoTarget_mapVideo (k.console.videoPage t)
    rw [closed.leaf, video] at target
    cases target
  · have here : k'.scheduled = k'.console.displayed :=
      calc k'.scheduled = k.scheduled := congrArg Viewport.scheduled mapped
        _ = k.console.displayed := scheduled.trans displayed.symm
        _ = k'.console.displayed := (congrArg Viewport.displayed mapped).symm
    exact shown.leaf.trans (congrArg (PageEntry.mk · .userPage) (if_pos here))

end Sample

/-- The first shell asks for its screen and sees the display. -/
theorem video_shows_scheduled_mapped :
    Run Sample.shellKernel (Sample.played [.mapVideo programWindow, .start]).1
        (Sample.played [.mapVideo programWindow, .start]).2 ∧
      (Sample.played [.mapVideo programWindow, .start]).2.space.videoTable[0] =
        ⟨vgaTextMemory, .userPage⟩ := by
  have shown := (Run.video_shows_scheduled Sample.run_mapped).1
  exact ⟨Sample.run_mapped,
    Sample.leaf_of_mapped Sample.viewport_mapped (Sample.owner_started Sample.roster_started).1
      Sample.displayed_started
      ((Kernel.closed_or_open_iff _).mpr (Sample.run_mapped.pages_eq ▸ shown))⟩

end TerminalKernel

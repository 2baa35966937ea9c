import TerminalKernel.Proofs.VideoWindow

/-!
# Taking turns in a round

The terminals in use form a queue: the one whose turn is next comes first, and the scheduled one
last. A tick moves the head of the queue to its end and gives it the processor. Nothing else of the
queue changes, so that after as many ticks as terminals are in use each of them has had one turn and
the processor is back where it was. A terminal that is not in use is not in the queue.
-/

namespace TerminalKernel

/-! ## The order of turns -/

namespace TerminalId

variable {t u : TerminalId} {before behind : List TerminalId}

/-- All terminals in the order of their turns after `t`, which comes last. -/
def round (t : TerminalId) : List TerminalId := [t.next, t.next.next, t]

theorem nodup_round (t : TerminalId) : t.round.Nodup := by
  revert t
  decide

theorem perm_round (t : TerminalId) : t.round.Perm all := by
  revert t
  decide

theorem mem_round (t u : TerminalId) : u ∈ t.round := t.perm_round.mem_iff.mpr u.mem_all

/-- The round after a terminal begins with those that come behind it in any other round. -/
theorem round_of_split (split : t.round = before ++ u :: behind) :
    u.round = behind ++ (before ++ [u]) := by
  -- A round has three places, and `u` has one of them.
  rcases before with _ | ⟨first, _ | ⟨second, _ | ⟨third, more⟩⟩⟩
  · cases split
    rw [round, t.next_next_next]
    rfl
  · cases split
    rw [round, t.next_next_next]
    rfl
  · cases split
    rfl
  · have long := congrArg List.length split
    simp only [round, List.length_cons, List.length_append, List.length_nil] at long
    omega

variable {queued : TerminalId → Bool} {rest : List TerminalId}

/-- After a turn of the first terminal of a queue, the queue is the same but for this one, which
comes last. -/
theorem filter_round (queue : t.round.filter queued = u :: rest) :
    u.round.filter queued = rest ++ [u] := by
  obtain ⟨before, behind, split, skipped, first, behind_eq⟩ := List.filter_eq_cons_iff.mp queue
  have none : before.filter queued = [] := List.filter_eq_nil_iff.mpr skipped
  rw [round_of_split split, List.filter_append, List.filter_append, behind_eq, none,
    List.nil_append, List.filter_cons_of_pos first, List.filter_nil]

/-- A terminal comes first in its own round only if no other one is queued. -/
theorem eq_nil_of_filter_round (queue : t.round.filter queued = t :: rest) : rest = [] := by
  have again := filter_round queue
  have unique := t.nodup_round.filter queued
  rw [queue] at again unique
  cases rest with
  | nil => rfl
  | cons second more =>
    obtain rfl : t = second := (List.cons.inj again).1
    exact absurd List.mem_cons_self (List.nodup_cons.mp unique).1

/-- A terminal that is queued comes last in its own round. -/
theorem getLast?_filter_round (here : queued t = true) :
    (t.round.filter queued).getLast? = some t := by
  have last : t.round = [t.next, t.next.next] ++ [t] := rfl
  rw [last, List.filter_append, List.filter_cons_of_pos here, List.filter_nil,
    List.getLast?_concat]

end TerminalId

/-! ## The queue -/

namespace Kernel

variable {k k' : Kernel} {next : TerminalId} {rest : List TerminalId}

/-- The terminals in use in the order of their turns. The scheduled one comes last. -/
def queue (k : Kernel) : List TerminalId := k.scheduled.round.filter fun t => (k.session t).active

def activeCount (k : Kernel) : Nat := TerminalId.all.countP fun t => (k.session t).active

theorem nextActive?_eq_head? (k : Kernel) : k.nextActive? k.scheduled = k.queue.head? :=
  List.head?_filter.symm

theorem mem_queue {t : TerminalId} : t ∈ k.queue ↔ (k.session t).active = true := by
  rw [queue, List.mem_filter]
  exact and_iff_right (TerminalId.mem_round _ _)

theorem nodup_queue (k : Kernel) : k.queue.Nodup := k.scheduled.nodup_round.filter _

theorem length_queue (k : Kernel) : k.queue.length = k.activeCount := by
  rw [queue, activeCount, ← List.countP_eq_length_filter]
  exact k.scheduled.perm_round.countP_eq _

/-- What a tick can come to where every terminal that waits has an owner and a flow. -/
inductive TickOutcome (k : Kernel) : Prop
  | unused (empty : k.queue = []) (stays : k.tick = (k, .stay))
  | alone (only : k.queue = [k.scheduled]) (stays : k.tick = (k, .stay))
  | turn {next : TerminalId} {rest : List TerminalId} {owner : ProcessId}
      (queued : k.queue = next :: rest) (other : next ≠ k.scheduled)
      (turned : k.tick = (k.schedule next owner, .switch k.scheduled next))

namespace TickOutcome

theorem stays_of_nil (outcome : k.TickOutcome) (empty : k.queue = []) : k.tick = (k, .stay) := by
  cases outcome with
  | unused _ stays => exact stays
  | alone _ stays => exact stays
  | turn queued _ _ =>
    rw [empty] at queued
    cases queued

/-- The head of the queue gets the processor. The video window is mapped for it if it did not have
the processor before. -/
theorem gives (outcome : k.TickOutcome) (queued : k.queue = next :: rest) :
    k.tick.1.scheduled = next ∧ (rest ≠ [] → k.tick.1.viewport.Open) := by
  cases outcome with
  | unused empty _ =>
    rw [empty] at queued
    cases queued
  | alone only stays =>
    rw [only] at queued
    cases queued
    rw [stays]
    exact ⟨rfl, fun more => absurd rfl more⟩
  | @turn _ _ owner queued' _ turned =>
    cases queued'.symm.trans queued
    rw [turned]
    exact ⟨rfl, fun _ => { k.enter owner with scheduled := next }.open_mapScreen⟩

end TickOutcome

theorem ne_of_queue {t : TerminalId} (unused : (k.session t).active = false)
    (queued : k.queue = next :: rest) : next ≠ t := by
  rintro rfl
  have active := mem_queue.mp (queued ▸ List.mem_cons_self)
  rw [unused] at active
  cases active

/-- All that ticks leave alone: the processes, the screens with their cursors, the lines and the
display, and who sits at which terminal. -/
structure Steady (k k' : Kernel) : Prop where
  processes : k'.processes = k.processes
  console : k'.console = k.console
  seats : ∀ t, (k'.session t).seat = (k.session t).seat

namespace Steady

theorem refl (k : Kernel) : k.Steady k := ⟨rfl, rfl, fun _ => rfl⟩

theorem trans {k'' : Kernel} (first : k.Steady k') (second : k'.Steady k'') : k.Steady k'' :=
  ⟨second.processes.trans first.processes, second.console.trans first.console,
    fun t => (second.seats t).trans (first.seats t)⟩

theorem active (steady : k.Steady k') (t : TerminalId) :
    (k'.session t).active = (k.session t).active := congrArg Seat.active (steady.seats t)

theorem owner (steady : k.Steady k') (t : TerminalId) :
    (k'.session t).owner = (k.session t).owner := congrArg Seat.owner (steady.seats t)

theorem queue_eq (steady : k.Steady k') :
    k'.queue = k'.scheduled.round.filter fun t => (k.session t).active := by
  simp only [queue, steady.active]

end Steady

theorem steady_tick (k : Kernel) : k.Steady k.tick.1 := by
  rcases k.tick_cases with same | ⟨_, noted⟩ | ⟨_, _, _, _, _, _, turned⟩
  · rw [same]
    exact .refl k
  · rw [noted]
    exact ⟨rfl, rfl, fun _ => rfl⟩
  · rw [turned]
    exact ⟨rfl, rfl, fun _ => rfl⟩

/-- A tick saves flows nowhere but at terminals. -/
theorem saveSlot?_tick (k : Kernel) (pid : ProcessId) :
    k.tick.2.saveSlot? ≠ some (.parent pid) := by
  rcases k.tick_cases with same | ⟨_, noted⟩ | ⟨_, _, _, _, _, _, turned⟩
  · simp [same, Transfer.saveSlot?]
  · simp [noted, Transfer.saveSlot?]
  · simp [turned, Transfer.saveSlot?]

theorem steady_park {transfer : Transfer} (slot : ∀ pid, transfer.saveSlot? ≠ some (.parent pid))
    (context : SavedContext) : k.Steady (k.park transfer context) := by
  unfold park
  split
  · rename_i s found
    cases s with
    | parent pid => exact absurd found (slot pid)
    | terminal t =>
      refine ⟨rfl, rfl, fun u => ?_⟩
      rw [saveContext, updateSession, session_setSession]
      split
      · rename_i same
        rw [same]
        rfl
      · rfl
  · exact .refl k

end Kernel

/-! ## One tick -/

namespace Moment

variable {m : Moment}

theorem after_of_stay (stay : m.transfer = .stay) : m.after = m.decided := by
  unfold after
  split
  · rw [stay]
    rfl
  · rfl

theorem decided_tick (tick : m.action = .tick) : m.decided = m.before.tick.1 := by
  rw [decided, tick]
  rfl

theorem transfer_tick (tick : m.action = .tick) : m.transfer = m.before.tick.2 := by
  rw [transfer, tick]
  rfl

theorem steady_after (tick : m.action = .tick) : m.before.Steady m.after := by
  have steady : m.before.Steady m.decided := decided_tick tick ▸ m.before.steady_tick
  unfold after
  split
  · refine steady.trans (Kernel.steady_park (fun pid slot => ?_) _)
    exact m.before.saveSlot?_tick pid (transfer_tick tick ▸ slot)
  · exact steady

/-- A tick gives the processor to the head of the queue and moves it to the end of the queue. -/
theorem rotates (tick : m.action = .tick) (outcome : m.before.TickOutcome) {next : TerminalId}
    {rest : List TerminalId} (queued : m.before.queue = next :: rest) :
    m.after.scheduled = next ∧ m.after.queue = rest ++ [next] ∧
      (rest ≠ [] → m.after.viewport.Open) := by
  obtain ⟨scheduled, shown⟩ := outcome.gives queued
  rw [← decided_tick tick] at scheduled shown
  rw [← scheduled_after] at scheduled
  rw [← viewport_after] at shown
  refine ⟨scheduled, ?_, shown⟩
  rw [(steady_after tick).queue_eq, scheduled]
  exact TerminalId.filter_round queued

theorem after_eq_of_stay (tick : m.action = .tick) (outcome : m.before.TickOutcome)
    (stay : m.transfer = .stay) : m.after = m.before := by
  rw [after_of_stay stay, decided_tick tick]
  cases outcome with
  | unused _ stays => rw [stays]
  | alone _ stays => rw [stays]
  | turn _ _ turned =>
    have switches := transfer_tick tick
    rw [turned, stay] at switches
    cases switches

end Moment

/-! ## Any number of ticks -/

/-- The terminals that had the processor after each of some moments, from the first moment on. -/
def visited : List Moment → List TerminalId
  | [] => []
  | m :: earlier => visited earlier ++ [m.after.scheduled]

theorem length_visited (moments : List Moment) : (visited moments).length = moments.length := by
  induction moments with
  | nil => rfl
  | cons m earlier ih => rw [visited, List.length_append, ih, List.length_singleton, List.length_cons]

namespace Kernel

theorem exists_onStack {k : Kernel} (sound : k.roster.Sound) :
    ∃ address, (k.withStackPointer address).OnStack := by
  cases told : k.kernelStack with
  | none =>
    have same : (k.withStackPointer (some k.processes.arena.top)).kernelStack = none := told
    refine ⟨some k.processes.arena.top, ?_⟩
    unfold OnStack
    rw [same]
    exact .inr (Nat.le_refl _)
  | some top =>
    obtain ⟨pid, which⟩ := exists_stackTop sound told
    have high : stackSlotSize ≤ top := which ▸ Arena.stackSlotSize_le_stackTop _ pid
    have same : (k.withStackPointer (some (top - 1))).kernelStack = some top := told
    have here : (k.withStackPointer (some (top - 1))).stackPointer = top - 1 := rfl
    refine ⟨some (top - 1), ?_⟩
    unfold OnStack
    rw [same, here]
    simp only [stackSlotSize] at *
    omega

end Kernel

namespace Run

variable {files : FileSystem} {arena : Arena} {storage : Kernel.Storage} {h ticks : List Moment}
  {k k' : Kernel}

/-- Where every flow that was suspended is saved, a tick never finds a terminal whose turn it cannot
take. -/
theorem tickOutcome (run : Run (.new files arena storage) h k) (saves : ∀ m ∈ h, m.Saves) :
    k.TickOutcome := by
  have found := k.nextActive?_eq_head?
  cases queued : k.queue with
  | nil =>
    rw [queued, List.head?_nil] at found
    refine .unused queued ?_
    rw [Kernel.tick, found]
  | cons next rest =>
    rw [queued, List.head?_cons] at found
    by_cases here : next = k.scheduled
    · subst here
      obtain rfl := TerminalId.eq_nil_of_filter_round queued
      refine .alone queued ?_
      rw [Kernel.tick, found]
      exact if_pos rfl
    · have active : (k.session next).active = true :=
        Kernel.mem_queue.mp (queued ▸ List.mem_cons_self)
      obtain ⟨owner, _, _, context, parked, _, flow, full⟩ := run.exists_flow saves active here
      exact .turn queued here (Kernel.tick_of_next found here parked.seated (flow ▸ full))

/-- Only the stack pointer may differ between two kernels with the same history. -/
theorem eq_withStackPointer {k₀ : Kernel} (run : Run k₀ h k) (other : Run k₀ h k') :
    ∃ address, k' = k.withStackPointer address := by
  cases run with
  | new _ _ =>
    cases other with
    | new address _ => exact ⟨address, rfl⟩
  | step _ a _ saved _ _ =>
    cases other with
    | step _ _ _ _ address _ => exact ⟨address, rfl⟩

theorem eq_after {k₀ : Kernel} {m : Moment} (run : Run k₀ (m :: h) k) :
    ∃ address, k = m.after.withStackPointer address := by
  cases run with
  | step _ _ _ _ address _ => exact ⟨address, rfl⟩

end Run

/-- A run goes on with nothing but ticks, and they save the flows that they suspend. -/
structure Ticking (k₀ : Kernel) (h ticks : List Moment) (k : Kernel) : Prop where
  run : Run k₀ (ticks ++ h) k
  tick : ∀ m ∈ ticks, m.action = .tick
  saves : ∀ m ∈ ticks, m.Saves

namespace Run

variable {files : FileSystem} {arena : Arena} {storage : Kernel.Storage} {h ticks : List Moment}
  {k k' : Kernel}

/-- The timer can tick any number of times once the first shell was started. -/
theorem exists_ticking (run : Run (.new files arena storage) h k) (started : h ≠ [])
    {flow : SavedContext} (full : flow.isEmpty = false) (count : Nat) :
    ∃ ticks k', Ticking (.new files arena storage) h ticks k' ∧ ticks.length = count := by
  induction count with
  | zero =>
    exact ⟨[], k, ⟨run, fun _ none => absurd none List.not_mem_nil,
      fun _ none => absurd none List.not_mem_nil⟩, rfl⟩
  | succ count ih =>
    obtain ⟨ticks, k', ⟨later, tick, saves⟩, length⟩ := ih
    have first : Action.tick = .start ↔ ticks ++ h = [] := by simp [started]
    have sound := Kernel.sound_after later.sound later.onStack (later.ready first) (some flow)
    obtain ⟨address, stack⟩ := Kernel.exists_onStack sound
    refine ⟨⟨k', .tick, some flow⟩ :: ticks, _,
      ⟨.step later .tick first (some flow) address stack, ?_, ?_⟩, congrArg (· + 1) length⟩
    · exact List.forall_mem_cons.mpr ⟨rfl, tick⟩
    · exact List.forall_mem_cons.mpr ⟨fun _ => ⟨flow, rfl, full⟩, saves⟩

end Run

namespace Ticking

variable {files : FileSystem} {arena : Arena} {storage : Kernel.Storage} {h ticks : List Moment}
  {k k' : Kernel}

theorem latest {m : Moment} (ticking : Ticking (.new files arena storage) h (m :: ticks) k') :
    m.action = .tick ∧ Ticking (.new files arena storage) h ticks m.before :=
  ⟨ticking.tick m List.mem_cons_self, ticking.run.latest.1,
    fun e inside => ticking.tick e (List.mem_cons_of_mem _ inside),
    fun e inside => ticking.saves e (List.mem_cons_of_mem _ inside)⟩

theorem outcome (ticking : Ticking (.new files arena storage) h ticks k')
    (saves : ∀ m ∈ h, m.Saves) : k'.TickOutcome :=
  ticking.run.tickOutcome fun e inside =>
    (List.mem_append.mp inside).elim (ticking.saves e) (saves e)

theorem steady (ticking : Ticking (.new files arena storage) h ticks k')
    (run : Run (.new files arena storage) h k) : k.Steady k' := by
  induction ticks generalizing k' with
  | nil =>
    obtain ⟨_, rfl⟩ := run.eq_withStackPointer ticking.run
    exact ⟨rfl, rfl, fun _ => rfl⟩
  | cons m earlier ih =>
    obtain ⟨tick, before⟩ := ticking.latest
    have after := (ih before).trans (Moment.steady_after tick)
    obtain ⟨_, rfl⟩ := ticking.run.eq_after
    exact ⟨after.processes, after.console, after.seats⟩

/-- Nothing but the turns changes throughout, and a tick that stays changes not even that. -/
theorem throughout (ticking : Ticking (.new files arena storage) h ticks k')
    (run : Run (.new files arena storage) h k) (saves : ∀ m ∈ h, m.Saves) :
    ∀ m ∈ ticks, k.Steady m.before ∧ k.Steady m.after ∧
      (m.transfer = .stay → m.after = m.before) := by
  induction ticks generalizing k' with
  | nil => exact fun _ none => absurd none List.not_mem_nil
  | cons m earlier ih =>
    obtain ⟨tick, before⟩ := ticking.latest
    have steady := before.steady run
    exact List.forall_mem_cons.mpr ⟨⟨steady, steady.trans (Moment.steady_after tick),
      Moment.after_eq_of_stay tick (before.outcome saves)⟩, ih before⟩

/-- As long as there are not more ticks than terminals in use, those that had their turn are the
first ones of the queue and have moved to its end. -/
theorem queue (ticking : Ticking (.new files arena storage) h ticks k')
    (run : Run (.new files arena storage) h k) (saves : ∀ m ∈ h, m.Saves)
    (few : ticks.length ≤ k.queue.length) :
    (∃ waiting, k.queue = visited ticks ++ waiting ∧ k'.queue = waiting ++ visited ticks) ∧
      (ticks ≠ [] → 1 < k.queue.length → k'.viewport.Open) := by
  induction ticks generalizing k' with
  | nil =>
    obtain ⟨_, rfl⟩ := run.eq_withStackPointer ticking.run
    exact ⟨⟨k.queue, rfl, (List.append_nil _).symm⟩, fun some => absurd rfl some⟩
  | cons m earlier ih =>
    obtain ⟨tick, before⟩ := ticking.latest
    obtain ⟨⟨waiting, former, now⟩, _⟩ := ih before (Nat.le_of_succ_le few)
    -- The queue before this tick: those that still wait, and then those that had their turn.
    cases waiting with
    | nil =>
      rw [former, List.append_nil, length_visited] at few
      exact absurd few (Nat.not_succ_le_self _)
    | cons next rest =>
      rw [List.cons_append] at now
      obtain ⟨scheduled, moved, shown⟩ := Moment.rotates tick (before.outcome saves) now
      obtain ⟨_, rfl⟩ := ticking.run.eq_after
      refine ⟨⟨rest, ?_, ?_⟩, fun _ several => shown fun alone => ?_⟩
      · rw [visited, scheduled, former, List.append_assoc]
        rfl
      · rw [visited, scheduled, ← List.append_assoc]
        exact moved
      · obtain ⟨rfl, none⟩ := List.append_eq_nil_iff.mp alone
        rw [former, none] at several
        exact absurd several (Nat.lt_irrefl _)

end Ticking

/-! ## A whole round -/

/-- Ticks after which every terminal in use had one turn and the processor is back where it was. -/
structure Round (k : Kernel) (ticks : List Moment) (k' : Kernel) : Prop where
  order : visited ticks = k.scheduled.round.filter fun t => (k.session t).active
  once : (visited ticks).Nodup
  all : ∀ t, t ∈ visited ticks ↔ (k.session t).active = true
  scheduled : k'.scheduled = k.scheduled
  lower : k'.space.directory[programEntry] = k.space.directory[programEntry]
  upper : k'.space.directory[programEntry + 1] = k.space.directory[programEntry + 1]
  kernelStack : k'.kernelStack = k.kernelStack
  /-- If there was anything to switch to, the video window leads to the terminal's screen. -/
  video : 1 < k.activeCount → k'.viewport.Open

namespace Run

variable {files : FileSystem} {arena : Arena} {storage : Kernel.Storage} {h : List Moment}
  {k k' : Kernel}

/-- The window and the kernel stack belong to the owner of the scheduled terminal, whenever that
terminal is scheduled. -/
theorem told_of_scheduled (run : Run (.new files arena storage) h k) {h' : List Moment}
    (run' : Run (.new files arena storage) h' k') (active : (k.session k.scheduled).active = true)
    (scheduled : k'.scheduled = k.scheduled)
    (owner : (k'.session k.scheduled).owner = (k.session k.scheduled).owner) :
    k'.roster.window = k.roster.window ∧ k'.kernelStack = k.kernelStack := by
  obtain ⟨pid, seated⟩ :=
    Option.isSome_iff_exists.mp ((run.sound.active_iff_owner k.scheduled).mp active)
  have seated : (k.session k.scheduled).owner = some pid := seated
  have seated' : (k'.session k'.scheduled).owner = some pid := by
    rw [scheduled, owner, seated]
  obtain ⟨stack, window⟩ := run.sound.coherent.running pid seated
  obtain ⟨stack', window'⟩ := run'.sound.coherent.running pid seated'
  have arena : k'.roster.arena = k.roster.arena := run'.fixed.2.trans run.fixed.2.symm
  exact ⟨window'.trans window.symm, stack'.trans (arena ▸ stack.symm)⟩

end Run

theorem Ticking.round {files : FileSystem} {arena : Arena} {storage : Kernel.Storage}
    {h ticks : List Moment} {k k' : Kernel} (ticking : Ticking (.new files arena storage) h ticks k')
    (run : Run (.new files arena storage) h k) (saves : ∀ m ∈ h, m.Saves)
    (active : (k.session k.scheduled).active = true) (count : ticks.length = k.activeCount) :
    Round k ticks k' := by
  rw [← k.length_queue] at count
  obtain ⟨⟨waiting, queue, _⟩, shown⟩ := ticking.queue run saves (Nat.le_of_eq count)
  have order : visited ticks = k.queue := by
    have long := congrArg List.length queue
    rw [List.length_append, length_visited, count] at long
    rw [queue, List.eq_nil_of_length_eq_zero (Nat.add_eq_left.mp long.symm), List.append_nil]
  have last : k.queue.getLast? = some k.scheduled := TerminalId.getLast?_filter_round active
  have scheduled : k'.scheduled = k.scheduled := by
    cases ticks with
    | nil =>
      rw [← order] at last
      cases last
    | cons m earlier =>
      obtain ⟨_, rfl⟩ := ticking.run.eq_after
      rw [← order, visited, List.getLast?_concat] at last
      exact Option.some_inj.mp last
  obtain ⟨window, stack⟩ :=
    run.told_of_scheduled ticking.run active scheduled ((ticking.steady run).owner _)
  obtain ⟨lower, upper⟩ := Prod.mk.inj window
  refine ⟨order, order ▸ k.nodup_queue, fun t => order ▸ Kernel.mem_queue, scheduled, lower, upper,
    stack, fun several => ?_⟩
  rw [← k.length_queue] at several
  refine shown ?_ several
  rintro rfl
  rw [← count] at several
  cases several

/-! ## Terminals that are not in use -/

/-- Whoever gets the processor from another terminal is in use then. -/
theorem Roster.Step.scheduled_or_active {r r' : Roster} {current? : Option ProcessId}
    {transfer : Transfer} (step : Roster.Step r current? transfer r') :
    r'.scheduled = r.scheduled ∨ (r'.seat r'.scheduled).active = true := by
  cases step with
  | @fresh t l _ _ _ _ =>
    have seat := seat_begin r t t l.pid
    rw [if_pos rfl] at seat
    exact .inr (congrArg Seat.active seat)
  | turn _ active _ _ _ => exact .inr active
  | stay | execute _ _ _ | resume _ _ _ _ _ | relaunch _ _ _ _ _ _ | idle _ _ _ => exact .inl rfl

namespace Run

variable {files : FileSystem} {arena : Arena} {storage : Kernel.Storage} {h later : List Moment}
  {k k' : Kernel} {t : TerminalId}

theorem scheduled_or_active {m : Moment} (run : Run (.new files arena storage) (m :: h) k) :
    m.after.scheduled = m.before.scheduled ∨ (m.after.session m.after.scheduled).active = true := by
  obtain ⟨_, _, step⟩ := run.latest
  have roster := m.roster_after
  have scheduled : m.after.scheduled = m.decided.roster.scheduled := m.scheduled_after
  have seat : m.after.roster.seat = m.decided.roster.seat := by
    rw [roster, Roster.seat_park]
  rcases step.scheduled_or_active with same | active
  · exact .inl (scheduled.trans same)
  · right
    change (m.after.roster.seat m.after.scheduled).active = true
    rw [seat, scheduled]
    exact active

/-- Nothing gives the processor to a terminal that is not in use. -/
theorem stays_away (run : Run (.new files arena storage) h k) (away : k.scheduled ≠ t)
    (more : Run (.new files arena storage) (later ++ h) k')
    (unused : ∀ m ∈ later, (m.after.session t).active = false) :
    k'.scheduled ≠ t ∧ ∀ m ∈ later, m.after.scheduled ≠ t := by
  induction later generalizing k' with
  | nil =>
    obtain ⟨_, rfl⟩ := run.eq_withStackPointer more
    exact ⟨away, fun _ none => absurd none List.not_mem_nil⟩
  | cons m earlier ih =>
    obtain ⟨here, before⟩ := List.forall_mem_cons.mp unused
    obtain ⟨apart, throughout⟩ := ih more.latest.1 before
    have still : m.after.scheduled ≠ t := by
      rintro rfl
      rcases more.scheduled_or_active with same | active
      · exact apart same.symm
      · rw [here] at active
        cases active
    obtain ⟨_, rfl⟩ := more.eq_after
    exact ⟨still, List.forall_mem_cons.mpr ⟨still, throughout⟩⟩

end Run

namespace Run

variable {files : FileSystem} {arena : Arena} {storage : Kernel.Storage} {h : List Moment}
  {k : Kernel}

/-- Ticks give the processor to the terminals in use, one after the other in cyclic order, and to no
other. After as many ticks as terminals are in use each had its turn, and the scheduled one has the
processor again, with its program window, its kernel stack and its screen. Processes, screens, lines
and seats are left alone all the while, and a tick that decides to stay leaves everything alone. A
terminal that is scheduled but not in use loses the processor at the next tick, unless there is none
in use; nothing gives the processor to such a terminal until it is in use again. -/
theorem round_robin (run : Run (.new files arena storage) h k) (saves : ∀ m ∈ h, m.Saves) :
    (∀ ticks k', Ticking (.new files arena storage) h ticks k' →
      k.Steady k' ∧ ∀ m ∈ ticks, k.Steady m.before ∧ k.Steady m.after ∧
        (m.transfer = .stay → m.after = m.before)) ∧
    ((k.session k.scheduled).active = true →
      (∃ ticks k', Ticking (.new files arena storage) h ticks k' ∧
        ticks.length = k.activeCount) ∧
      ∀ ticks k', Ticking (.new files arena storage) h ticks k' →
        ticks.length = k.activeCount → Round k ticks k') ∧
    ((k.session k.scheduled).active = false →
      (∀ t, (k.session t).active = false) ∧ k.tick = (k, .stay) ∨
      k.tick.1.scheduled ≠ k.scheduled ∧
        ∀ m later k', Run (.new files arena storage) (later ++ m :: h) k' → m.action = .tick →
          (∀ e ∈ later, (e.after.session k.scheduled).active = false) →
            ∀ e ∈ m :: later, e.after.scheduled ≠ k.scheduled) ∧
    ∀ t later k', k.scheduled ≠ t → Run (.new files arena storage) (later ++ h) k' →
      (∀ e ∈ later, (e.after.session t).active = false) → ∀ e ∈ later, e.after.scheduled ≠ t := by
  refine ⟨fun ticks k' ticking => ⟨ticking.steady run, ticking.throughout run saves⟩,
    fun active => ⟨?_, fun ticks k' ticking => ticking.round run saves active⟩, fun unused => ?_,
    fun t later k' away more unused => (run.stays_away away more unused).2⟩
  · have started : h ≠ [] := by
      rintro rfl
      cases run
      simp [Kernel.withStackPointer, Kernel.new, Kernel.session, Session.idle] at active
    exact run.exists_ticking started (show (SavedContext.suspended 0 1).isEmpty = false from rfl) _
  · have outcome := run.tickOutcome saves
    cases queued : k.queue with
    | nil =>
      refine .inl ⟨fun t => ?_, outcome.stays_of_nil queued⟩
      rw [← Bool.not_eq_true, ← Kernel.mem_queue, queued]
      exact List.not_mem_nil
    | cons next rest =>
      have other : next ≠ k.scheduled := Kernel.ne_of_queue unused queued
      refine .inr ⟨(outcome.gives queued).1 ▸ other, fun m later k' more tick idle => ?_⟩
      obtain ⟨k₁, upTo⟩ := more.exists_earlier
      have before : m.before.queue = next :: rest := by
        obtain ⟨_, same⟩ := run.eq_withStackPointer upTo.latest.1
        rw [same]
        exact queued
      have turned := (Moment.rotates tick (upTo.latest.1.tickOutcome saves) before).1
      have lost : m.after.scheduled ≠ k.scheduled := turned ▸ other
      have away : k₁.scheduled ≠ k.scheduled := by
        obtain ⟨_, rfl⟩ := upTo.eq_after
        exact lost
      exact List.forall_mem_cons.mpr ⟨lost, (upTo.stays_away away more idle).2⟩

end Run

namespace Sample

/-- Two ticks after some actions. -/
def twoTicks (earlier : List Action) : List Moment :=
  [⟨(played (.tick :: earlier)).2, .tick, some flow⟩, ⟨(played earlier).2, .tick, some flow⟩]

theorem ticking_twoTicks {earlier : List Action} (begins : Action.Begins earlier)
    (started : earlier ≠ []) :
    Ticking shellKernel (played earlier).1 (twoTicks earlier)
      (played (.tick :: .tick :: earlier)).2 where
  run := by
    have again : Action.Begins (.tick :: .tick :: earlier) :=
      ⟨by simp, by simp [started], begins⟩
    exact run_played again
  tick := by simp [twoTicks]
  saves m inside _ := by
    simp only [twoTicks, List.mem_cons, List.not_mem_nil, or_false] at inside
    rcases inside with rfl | rfl <;> exact ⟨flow, rfl, rfl⟩

theorem activeCount_selected {k : Kernel} (same : k.roster = selected) : k.activeCount = 2 := by
  have count : k.activeCount = TerminalId.all.countP fun t => (k.roster.seat t).active := rfl
  rw [count, same]
  decide +kernel

theorem queue_selected {k : Kernel} (same : k.roster = selected) : k.queue = [.first, 1] := by
  have queue : k.queue = k.roster.scheduled.round.filter fun t => (k.roster.seat t).active := rfl
  rw [queue, same]
  decide +kernel

end Sample

/-- Two shells take turns: the one on the first terminal, and then again the one on the second,
which had the processor before. The third terminal is never scheduled, for it is not in use. -/
theorem round_robin_selected :
    (Sample.played [.switchTerminal 1, .start]).2.scheduled = 1 ∧
      visited (Sample.twoTicks [.switchTerminal 1, .start]) = [.first, 1] ∧
      (Sample.played [.tick, .tick, .switchTerminal 1, .start]).2.scheduled = 1 ∧
      (Sample.played [.tick, .tick, .switchTerminal 1, .start]).2.viewport.Open := by
  obtain ⟨scheduled, active, _⟩ := Sample.seats_selected Sample.roster_selected
  have count := Sample.activeCount_selected Sample.roster_selected
  have queue := Sample.queue_selected Sample.roster_selected
  have here : ((Sample.played [.switchTerminal 1, .start]).2.session
      (Sample.played [.switchTerminal 1, .start]).2.scheduled).active = true :=
    Kernel.mem_queue.mp (by rw [queue, scheduled]; decide)
  have begins : Action.Begins [.switchTerminal 1, .start] := ⟨by simp, by simp, trivial⟩
  obtain ⟨_, rounds, _⟩ := Run.round_robin Sample.run_selected Sample.saves_played
  have round :=
    (rounds here).2 _ _ (Sample.ticking_twoTicks begins (List.cons_ne_nil _ _)) count.symm
  refine ⟨scheduled, round.order.trans queue, round.scheduled.trans scheduled, round.video ?_⟩
  rw [count]
  decide

end TerminalKernel

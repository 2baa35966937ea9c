import TerminalKernel.Proofs.LineDelivery
import TerminalKernel.Proofs.Reachable

/-!
# Blocked reads

A read that finds no line stops the processor until an interrupt. Its handler may give other
terminals their turns, and when it returns to the read others may come before the read tries again.
The flow that waits goes on whenever its terminal has the processor again, and then its process runs
and its own slot is behind the program window (`Waits.continues_iff`). Until a line is ready every
try is refused without a trace, and the first one after that delivers the line to the buffer that
was checked before the read blocked (`read_blocks`).
-/

namespace TerminalKernel

namespace Computer

/-- A process has stopped in the kernel. While its terminal is scheduled its flow has the processor,
as it stopped or as an interrupt left it, and else it is suspended where its terminal's context
says. -/
structure Waits (c : Computer) (t : TerminalId) (pid : ProcessId) (flow : Flow) : Prop where
  owner : (c.kernel.session t).owner = some pid
  running : c.kernel.scheduled = t → c.running = flow ∨ c.running = flow.interrupted
  suspended : c.kernel.scheduled ≠ t →
    c.suspended.lookup (c.kernel.session t).context.rsp.toNat = some flow.interrupted

/-- The keys that reached a terminal with some events, the oldest first. -/
def typedAll (c : Computer) (t : TerminalId) : List Event → List Key
  | [] => []
  | e :: earlier => c.typedAll t earlier ++ (c.afterAll earlier).typed t e

/-- At the event a read on terminal `t` that was woken tries again. -/
def Retries (c : Computer) (t : TerminalId) (e : Event) : Prop :=
  e = .retry ∧ c.kernel.scheduled = t ∧
    ∃ r fd address room, c.running = .woken r fd address room

/-- Whenever a read on terminal `t` tried again, no line was ready there. -/
def Unserved (c : Computer) (t : TerminalId) : List Event → Prop
  | [] => True
  | e :: earlier => c.Unserved t earlier ∧
      ((c.afterAll earlier).Retries t e → ((c.afterAll earlier).kernel.line t).committed = false)

variable {c : Computer} {e : Event} {h : Handover} {t : TerminalId} {pid : ProcessId}
  {r : Registers} {fd address room : Nat} {flow : Flow}

/-! ## Suspended flows -/

theorem lookup_filter_ne {place other : Nat} (apart : other ≠ place) (l : List (Nat × Flow)) :
    (l.filter (·.1 != place)).lookup other = l.lookup other := by
  induction l with
  | nil => rfl
  | cons first rest ih =>
    obtain ⟨key, value⟩ := first
    by_cases same : key = place
    · have differs : (other == key) = false := by rw [same, beq_eq_false_iff_ne]; exact apart
      rw [List.filter_cons_of_neg (by simp [same]), ih, List.lookup_cons, differs]
    · rw [List.filter_cons_of_pos (by simp [same]), List.lookup_cons, List.lookup_cons, ih]

theorem lookup_suspend (c : Computer) (place other : Nat) (flow : Flow) :
    (c.suspend place flow).suspended.lookup other =
      if other = place then some flow else c.suspended.lookup other := by
  rw [suspend, List.lookup_cons]
  by_cases same : other = place
  · rw [if_pos same, beq_iff_eq.mpr same]
  · rw [if_neg same, beq_eq_false_iff_ne.mpr same]
    exact lookup_filter_ne same c.suspended

theorem lookup_parked_of_ne (hands : c.HandsOver e h) {place : Nat}
    (apart : place ≠ h.stackPointer) :
    h.parked.suspended.lookup place = c.suspended.lookup place := by
  rw [← hands.suspended]
  unfold Handover.parked
  split
  · rfl
  · exact (lookup_suspend _ _ _ _).trans (if_neg apart)

theorem lookup_parked_self (slot : h.transfer.saveSlot?.isSome = true) :
    h.parked.suspended.lookup h.stackPointer = some h.flow := by
  unfold Handover.parked
  split
  · rename_i none
    rw [none] at slot
    cases slot
  · exact (lookup_suspend _ _ _ _).trans (if_pos rfl)

/-! ## Handovers while a flow waits -/

namespace Waits

theorem on (waits : c.Waits t pid flow) (settled : c.kernel.Settled) : c.kernel.roster.On t pid :=
  settled.sound.on_of_owner waits.owner

theorem not_user (waits : c.Waits t pid (.reading r fd address room))
    (here : c.kernel.scheduled = t) (r' : Registers) : c.running ≠ .user r' := by
  rcases waits.running here with stopped | woken
  · rw [stopped]
    nofun
  · rw [woken]
    nofun

/-- The turn of a process that has stopped is only interrupted, and the flow is woken. -/
theorem interrupted (waits : c.Waits t pid (.reading r fd address room))
    (settled : c.kernel.Settled) (hands : c.HandsOver e h) (here : c.kernel.scheduled = t) :
    h.flow = .woken r fd address room ∧
      (h.transfer = .stay ∨ h.transfer.saveSlot? = some (.terminal c.kernel.scheduled)) := by
  rcases hands.interrupted_or_called settled with ⟨own, interrupted⟩ | ⟨⟨r', user⟩, _⟩
  · refine ⟨own.trans ?_, interrupted.preempts⟩
    rcases waits.running here with stopped | woken
    · rw [stopped]
      rfl
    · rw [woken]
      rfl
  · exact absurd user (waits.not_user here r')

theorem keeps_turn (waits : c.Waits t pid (.reading r fd address room)) (settled : c.kernel.Settled)
    (hands : c.HandsOver e h) : (h.decided.kernel.roster.seat t).owner = some pid ∧
      (h.decided.kernel.scheduled = t →
        h.transfer = .stay ∨ ∃ source, h.transfer = .switch source t) := by
  obtain ⟨owner, turn⟩ := settled.sound.keeps_turn (hands.decides settled).step waits.owner
    fun here => (waits.interrupted settled hands here.symm).2
  exact ⟨owner, fun here => turn here.symm⟩

theorem owner_parked (waits : c.Waits t pid (.reading r fd address room))
    (settled : c.kernel.Settled) (hands : c.HandsOver e h) :
    (h.parked.kernel.session t).owner = some pid := by
  have seat : h.parked.kernel.roster.seat t = h.decided.kernel.roster.seat t := by
    rw [h.roster_parked, Roster.seat_park]
  exact (congrArg Seat.owner seat).trans (waits.keeps_turn settled hands).1

end Waits

theorem scheduled_parked (h : Handover) :
    h.parked.kernel.scheduled = h.decided.kernel.scheduled := by
  have same : h.parked.kernel.roster.scheduled = h.decided.kernel.roster.scheduled := by
    rw [h.roster_parked, Roster.scheduled_park]
  exact same

theorem scheduled_of_stay (hands : c.HandsOver e h) (settled : c.kernel.Settled)
    (stays : h.transfer = .stay) : h.decided.kernel.scheduled = c.kernel.scheduled := by
  have decides := hands.decides settled
  rw [stays] at decides
  exact congrArg Roster.scheduled decides.roster_eq

theorem arena_parked (hands : c.HandsOver e h) (settled : c.kernel.Settled) :
    h.decided.kernel.processes.arena = c.kernel.processes.arena ∧
      h.parked.kernel.processes.arena = c.kernel.processes.arena := by
  have decided := (hands.decides settled).arena_eq
  have parked : h.parked.kernel.roster.arena = h.decided.kernel.roster.arena := by
    rw [h.roster_parked, (Roster.park_fixed _ _ _).2]
  exact ⟨decided, Eq.trans parked decided⟩

/-- What a handover leaves at a terminal: the flow that it puts away there, or the one that was saved
there before. -/
theorem context_parked (hands : c.HandsOver e h) (settled : c.kernel.Settled) (t : TerminalId) :
    (h.parked.kernel.session t).context =
      if h.transfer.saveSlot? = some (.terminal t) then
        .suspended (UInt64.ofNat h.stackPointer) resumePoint
      else (c.kernel.session t).context := by
  have before : h.decided.kernel.roster.saved? (.terminal t) = some (c.kernel.session t).context :=
    (hands.decides settled).step.saved?_terminal t
  have saved : some (h.parked.kernel.session t).context = _ :=
    congrArg (·.saved? (.terminal t)) h.roster_parked
  rw [Roster.saved?_park, before] at saved
  split
  · rename_i slot
    rw [if_pos slot] at saved
    exact Option.some_inj.mp saved
  · rename_i slot
    rw [if_neg slot] at saved
    exact Option.some_inj.mp saved

namespace Waits

/-- The flow goes on when, and only when, its terminal has the processor. -/
theorem continues_iff (waits : c.Waits t pid (.reading r fd address room))
    (settled : c.kernel.Settled) (hands : c.HandsOver e h) :
    h.Continues pid ↔ h.parked.kernel.scheduled = t := by
  have ⟨l, live, _⟩ := waits.on settled
  have decides := hands.decides settled
  have owner := waits.owner_parked settled hands
  constructor
  · intro goesOn
    have runs := hands.owner_of_continues settled live goesOn
    have sound := (hands.settled_parked settled).sound
    exact (sound.on_of_owner runs).unique (sound.on_of_owner owner)
  · intro here
    rw [scheduled_parked] at here
    unfold Handover.Continues
    rw [(arena_parked hands settled).1]
    rcases (waits.keeps_turn settled hands).2 here with stays | ⟨source, switches⟩
    · have same : c.kernel.scheduled = t := (scheduled_of_stay hands settled stays).symm.trans here
      refine ⟨h.stackPointer, by simp only [Handover.place?, stays], ?_⟩
      rw [hands.stackPointer]
      exact settled.holder?_of_owner (same ▸ waits.owner)
    · have resumed : h.decided.kernel.roster.resumed? h.transfer =
          some (h.decided.kernel.session t).context := by
        rw [switches]
        rfl
      obtain ⟨q, runs, rests⟩ :=
        decides.step.rests_of_resumed settled.sound settled.threaded resumed
      have seated : (h.decided.kernel.roster.seat h.decided.kernel.roster.scheduled).owner =
          some pid := by
        have here : h.decided.kernel.roster.scheduled = t := here
        rw [here]
        exact (waits.keeps_turn settled hands).1
      rw [seated, Option.some_inj] at runs
      subst runs
      exact ⟨_, by simp only [Handover.place?, switches], rests⟩

theorem runs_of_scheduled (waits : c.Waits t pid flow) (settled : c.kernel.Settled)
    (here : c.kernel.scheduled = t) : c.kernel.Runs t pid :=
  here ▸ Kernel.runs_of_owner settled.sound (here.symm ▸ waits.owner)

theorem runs (waits : c.Waits t pid (.reading r fd address room)) (settled : c.kernel.Settled)
    (hands : c.HandsOver e h) (goesOn : h.Continues pid) : h.parked.kernel.Runs t pid := by
  have here := (waits.continues_iff settled hands).mp goesOn
  have owner := waits.owner_parked settled hands
  rw [← here] at owner ⊢
  exact Kernel.runs_of_owner (hands.settled_parked settled).sound owner

/-- The kernel does not run on the stack on which the flow is suspended. -/
theorem apart (waits : c.Waits t pid flow) (settled : c.kernel.Settled) (hands : c.HandsOver e h)
    (away : c.kernel.scheduled ≠ t) :
    (c.kernel.session t).context.rsp.toNat ≠ h.stackPointer := by
  have on := waits.on settled
  have ⟨l, live, _⟩ := on
  have rests : c.kernel.processes.arena.holder? (c.kernel.session t).context.rsp.toNat = some pid :=
    settled.threaded.waiting t pid (Ne.symm away) waits.owner _ rfl
  intro same
  rw [same, hands.stackPointer] at rests
  exact away ((settled.sound.on_of_owner (settled.owner_of_holder? live rests)).unique on)

/-- A flow that goes on is woken: it is about to try again. -/
theorem after_of_continues (waits : c.Waits t pid (.reading r fd address room))
    (settled : c.kernel.Settled) (hands : c.HandsOver e h) (goesOn : h.Continues pid) :
    (c.step e).1 = { h.parked with running := .woken r fd address room } := by
  have here := (waits.continues_iff settled hands).mp goesOn
  rw [scheduled_parked] at here
  have step := (hands.decides settled).step
  obtain ⟨place, goesOn, _⟩ := goesOn
  rw [hands.after_eq]
  refine h.after_of_place goesOn (by simp) (fun stays => ?_) fun moves => ?_
  · exact (waits.interrupted settled hands
      ((scheduled_of_stay hands settled stays).symm.trans here)).1
  · obtain ⟨source, switches⟩ := ((waits.keeps_turn settled hands).2 here).resolve_left moves
    have context : (h.decided.kernel.session t).context = (c.kernel.session t).context :=
      Option.some_inj.mp (step.saved?_terminal t)
    rw [Handover.place?, switches, Option.some_inj, context] at goesOn
    have away : c.kernel.scheduled ≠ t := by
      rw [switches] at step
      generalize h.decided.kernel.roster = after at step
      cases step with
      | turn other _ _ _ _ => exact fun same => other same.symm
    rw [← goesOn, lookup_parked_of_ne hands (waits.apart settled hands away), waits.suspended away]
    rfl

theorem lookup_parked (waits : c.Waits t pid (.reading r fd address room))
    (settled : c.kernel.Settled) (hands : c.HandsOver e h) (asleep : ¬ h.Continues pid) :
    h.parked.suspended.lookup (h.parked.kernel.session t).context.rsp.toNat =
      some (.woken r fd address room) := by
  have decides := hands.decides settled
  have elsewhere : t ≠ h.decided.kernel.scheduled := by
    intro here
    refine asleep ((waits.continues_iff settled hands).mpr ?_)
    rw [scheduled_parked, here]
  have slot := (settled.sound.passes decides.step elsewhere).slot
  rw [context_parked hands settled]
  by_cases here : c.kernel.scheduled = t
  · have saved := slot.mpr here.symm
    rw [if_pos saved, hands.stackPointer]
    change h.parked.suspended.lookup (UInt64.ofNat c.kernel.stackPointer).toNat = _
    rw [settled.toNat_stackPointer (here.symm ▸ waits.owner), ← hands.stackPointer,
      lookup_parked_self (by rw [saved]; rfl), (waits.interrupted settled hands here).1]
  · rw [if_neg fun saved => here (slot.mp saved).symm,
      lookup_parked_of_ne hands (waits.apart settled hands here), waits.suspended here]
    rfl

/-- While other terminals have their turns, nothing that goes on touches a flow that waits. -/
theorem of_proceeds {c' : Computer} (waits : c.Waits t pid flow) (away : c.kernel.scheduled ≠ t)
    (proceeds : Proceeds c c') : c'.Waits t pid flow where
  owner := (congrArg (fun r => (r.seat t).owner) proceeds.roster_eq).trans waits.owner
  running here := absurd (proceeds.scheduled_eq.symm.trans here) away
  suspended _ := by
    have same : (c'.kernel.session t).context = (c.kernel.session t).context :=
      Option.some_inj.mp (congrArg (·.saved? (.terminal t)) proceeds.roster_eq)
    rw [proceeds.suspended, same]
    exact waits.suspended away

theorem parked (waits : c.Waits t pid (.reading r fd address room)) (settled : c.kernel.Settled)
    (hands : c.HandsOver e h) (asleep : ¬ h.Continues pid) :
    h.parked.kernel.scheduled ≠ t ∧ h.parked.Waits t pid (.reading r fd address room) := by
  have away : h.parked.kernel.scheduled ≠ t := fun here =>
    asleep ((waits.continues_iff settled hands).mpr here)
  exact ⟨away, waits.owner_parked settled hands, fun here => absurd here away,
    fun _ => waits.lookup_parked settled hands asleep⟩

/-- A handover leaves the flow waiting, whether it goes on or not. -/
theorem handsOver (waits : c.Waits t pid (.reading r fd address room)) (settled : c.kernel.Settled)
    (hands : c.HandsOver e h) : (c.step e).1.Waits t pid (.reading r fd address room) ∧
      (c.step e).1.kernel.line t = h.parked.kernel.line t := by
  by_cases goesOn : h.Continues pid
  · have here := (waits.continues_iff settled hands).mp goesOn
    rw [waits.after_of_continues settled hands goesOn]
    exact ⟨⟨waits.owner_parked settled hands, fun _ => .inr rfl, fun away => absurd here away⟩, rfl⟩
  · obtain ⟨away, parked⟩ := waits.parked settled hands goesOn
    have proceeds := h.proceeds (hands.settled_parked settled)
    rw [hands.after_eq]
    exact ⟨parked.of_proceeds away proceeds, proceeds.line t (Ne.symm away)⟩

/-- A try finds the process running. Without a line that is ready it leaves everything as it is and
the flow stopped. -/
theorem retry (waits : c.Waits t pid (.reading r 0 address room)) (settled : c.kernel.Settled)
    (retries : c.Retries t e) : (c.step e).1 = c.tryRead r 0 address room ∧
      ((c.kernel.line t).committed = false →
        c.kernel.read 0 (some room) = (c.kernel, .fail .wouldBlock) ∧
          (c.step e).1 = { c with running := .reading r 0 address room }) := by
  obtain ⟨rfl, here, _, _, _, _, woken⟩ := retries
  have running : c.running = .woken r 0 address room := by
    rcases waits.running here with stopped | running
    · rw [stopped] at woken
      cases woken
    · exact running
  have tries : (c.step .retry).1 = c.tryRead r 0 address room := by
    rw [step_retry, Computer.retry, running]
  refine ⟨tries, fun editing => ?_⟩
  rw [tries]
  exact tryRead_of_editing settled (waits.runs_of_scheduled settled here) editing

/-- An event at which no try finds a line leaves the flow waiting, and the terminal's line is what
the keys make of it. -/
theorem step (waits : c.Waits t pid (.reading r 0 address room)) (settled : c.kernel.Settled)
    (e : Event) (unserved : c.Retries t e → (c.kernel.line t).committed = false) :
    (c.step e).1.Waits t pid (.reading r 0 address room) ∧
      (c.step e).1.kernel.line t = (c.typed t e).foldl InputLine.press (c.kernel.line t) := by
  rcases step_cases settled e with ⟨h, hands⟩ | ⟨untyped, ⟨depth, same⟩ | ⟨goesOn, proceeds⟩⟩
  · rw [← hands.line_eq settled t]
    exact waits.handsOver settled hands
  · rw [same, untyped]
    exact ⟨⟨waits.owner, waits.running, waits.suspended⟩, rfl⟩
  · rw [untyped]
    by_cases here : c.kernel.scheduled = t
    · cases goesOn with
      | user running => exact absurd running (waits.not_user here _)
      | retry running again =>
        have retries : c.Retries t e := ⟨again, here, _, _, _, _, running⟩
        rw [((waits.retry settled retries).2 (unserved retries)).2]
        exact ⟨⟨waits.owner, fun _ => .inl rfl, waits.suspended⟩, rfl⟩
    · exact ⟨waits.of_proceeds here proceeds, proceeds.line t (Ne.symm here)⟩

/-- A flow waits for as long as it finds no line. -/
theorem afterAll (waits : c.Waits t pid (.reading r 0 address room)) (settled : c.kernel.Settled)
    (events : List Event) (unserved : c.Unserved t events) :
    (c.afterAll events).Waits t pid (.reading r 0 address room) ∧
      (c.afterAll events).kernel.line t =
        (c.typedAll t events).foldl InputLine.press (c.kernel.line t) := by
  induction events with
  | nil => exact ⟨waits, rfl⟩
  | cons e earlier ih =>
    obtain ⟨before, line⟩ := ih unserved.1
    have step := before.step (settled_afterAll settled earlier) e unserved.2
    rw [typedAll, List.foldl_append, ← line]
    exact step

end Waits

/-! ## Reads that block -/

theorem waits_of_current (settled : c.kernel.Settled) {p : ProcessRecord TerminalId}
    (running : c.kernel.current = .ok (pid, p)) :
    Waits { c with running := .reading r 0 address room } p.terminal pid
      (.reading r 0 address room) := by
  obtain ⟨owner, here⟩ := Kernel.owner_of_current settled.sound settled.onStack running
  rw [← here] at owner
  exact ⟨owner, fun _ => .inl rfl, fun away => absurd here.symm away⟩

theorem waits_of_call (settled : c.kernel.Settled) (call : c.call? e = some r)
    (number : r.rax.toNat = Syscall.read.number) (input : r.rdi.toNat = 0)
    (low : programWindow ≤ r.rsi.toNat) (high : r.rsi.toNat + r.rdx.toNat ≤ programWindowEnd)
    {p : ProcessRecord TerminalId} (running : c.kernel.current = .ok (pid, p))
    (editing : (c.kernel.line p.terminal).committed = false) :
    (c.step e).1 = { c with running := .reading r 0 r.rsi.toNat r.rdx.toNat } ∧
      (c.step e).1.Waits p.terminal pid (.reading r 0 r.rsi.toNat r.rdx.toNat) := by
  obtain ⟨owner, here⟩ := Kernel.owner_of_current settled.sound settled.onStack running
  have runs := Kernel.runs_of_owner settled.sound owner
  rw [← here] at runs
  have asked : Syscall.ofNumber? r.rax.toNat = some .read := by
    rw [number]
    rfl
  have buffer : c.kernel.userBuffer? r.rsi.toNat r.rdx.toNat =
      some (.block r.rsi.toNat r.rdx.toNat) := by
    have accepted := (UserMemory.accepts_iff c.kernel.videoMapped _ _).mpr (.inl ⟨low, high⟩)
    have some : r.rsi.toNat ≠ 0 := by
      unfold programWindow at low
      omega
    rw [Kernel.userBuffer?, UserMemory.buffer?, if_neg some, if_pos accepted]
  have stopped : (c.step e).1 = { c with running := .reading r 0 r.rsi.toNat r.rdx.toNat } := by
    rw [step_of_call call]
    simp only [dispatch, asked, callRead, buffer, input]
    exact (tryRead_of_editing settled runs editing).2
  refine ⟨stopped, ?_⟩
  rw [stopped]
  exact waits_of_current settled running

/-- A read of input that finds no line keeps its process waiting through any events, among them any
number of interrupts between the one that woke it and its next try. Its flow goes on whenever its
terminal has the processor again: then the process runs with its own slot behind the program window,
and the flow is about to try again. At a try the process runs in the same way, and its terminal's
line is the one that was typed there since. While that is not committed, the try is refused and
nothing else happens; at the first try that finds it committed, its start is delivered into the slot
and the call returns. -/
theorem read_blocks {files : FileSystem} {arena : Arena} {storage : Kernel.Storage}
    (wide : arena.top ≤ UInt64.size) {past : List Event} {c c₀ c' : Computer}
    (reached : c = (boot files arena storage).afterAll past) {e₀ : Event} {r : Registers}
    (call : c.call? e₀ = some r) (number : r.rax.toNat = Syscall.read.number)
    (input : r.rdi.toNat = 0) (low : programWindow ≤ r.rsi.toNat)
    (high : r.rsi.toNat + r.rdx.toNat ≤ programWindowEnd) {pid : ProcessId}
    {p : ProcessRecord TerminalId} (running : c.kernel.current = .ok (pid, p))
    (editing : (c.kernel.line p.terminal).committed = false) (called : c₀ = (c.step e₀).1)
    {events : List Event} (unserved : c₀.Unserved p.terminal events)
    (after : c' = c₀.afterAll events) :
    c'.Waits p.terminal pid (.reading r 0 r.rsi.toNat r.rdx.toNat) ∧
    c'.kernel.line p.terminal =
      (c₀.typedAll p.terminal events).foldl InputLine.press (c.kernel.line p.terminal) ∧
    (∀ e h, c'.HandsOver e h →
      (h.Continues pid ↔ h.parked.kernel.scheduled = p.terminal) ∧
      (h.Continues pid →
        h.parked.kernel.Runs p.terminal pid ∧
        (c'.step e).1 = { h.parked with running := .woken r 0 r.rsi.toNat r.rdx.toNat })) ∧
    ∀ e, c'.Retries p.terminal e →
      c'.kernel.Runs p.terminal pid ∧
      if (c'.kernel.line p.terminal).committed then
        Delivers c' p.terminal pid r r.rsi.toNat r.rdx.toNat (c'.step e).1
      else
        c'.kernel.read 0 (some r.rdx.toNat) = (c'.kernel, .fail .wouldBlock) ∧
          (c'.step e).1 = { c' with running := .reading r 0 r.rsi.toNat r.rdx.toNat } := by
  have settled : c.kernel.Settled := reached ▸ settled_reached wide past
  have settled₀ : c₀.kernel.Settled := called ▸ settled_step settled e₀
  have settled' : c'.kernel.Settled := after ▸ settled_afterAll settled₀ events
  obtain ⟨stopped, waits₀⟩ := waits_of_call settled call number input low high running editing
  have line₀ : c₀.kernel.line p.terminal = c.kernel.line p.terminal := by
    rw [called, stopped]
  rw [← called] at waits₀
  obtain ⟨waits, line⟩ := waits₀.afterAll settled₀ events unserved
  rw [← after, line₀] at line
  rw [← after] at waits
  refine ⟨waits, line, fun e h hands => ⟨waits.continues_iff settled' hands, fun goesOn =>
    ⟨waits.runs settled' hands goesOn, waits.after_of_continues settled' hands goesOn⟩⟩,
    fun e retries => ?_⟩
  have runs := waits.runs_of_scheduled settled' retries.2.1
  obtain ⟨tries, refused⟩ := waits.retry settled' retries
  refine ⟨runs, ?_⟩
  split
  · rename_i ready
    rw [tries]
    exact delivers_tryRead settled' runs ready low high
  · rename_i editing
    rw [Bool.not_eq_true] at editing
    exact refused editing

end Computer

namespace Sample

open Computer

/-- A computer whose image has nothing but a shell. -/
def booted : Computer := boot shellFiles arena storage

/-- A read of input into the first 16 bytes of the program window. -/
def asking : Event := .syscall 3 0 0x8000000 16

/-- The registers with which the first shell makes this call. -/
def reader : Registers :=
  { Registers.start shell.entry userStackTop with
    rip := UInt64.ofNat shell.entry + 2, rax := 3, rsi := 0x8000000, rdx := 16 }

theorem reader_reads : reader.rax.toNat = Syscall.read.number ∧ reader.rdi.toNat = 0 ∧
    programWindow ≤ reader.rsi.toNat ∧
    reader.rsi.toNat + reader.rdx.toNat ≤ programWindowEnd := by decide

-- What follows from these is proved of any computer, so that no proof computes what boot comes to.

/-- The first shell runs, and no key was pressed yet. -/
structure Prompts (c : Computer) : Prop where
  settled : c.kernel.Settled
  call : c.call? asking = some reader
  running : ∃ p, c.kernel.current = .ok (0, p) ∧ p.terminal = .first
  line : c.kernel.line .first = .empty
  displayed : c.kernel.console.displayed = .first
  keyboard : c.keyboard = .initial

/-- The first shell waits for a line on its terminal, which is displayed. -/
structure Asks (c : Computer) (keyboard : Keyboard) (line : InputLine) : Prop where
  settled : c.kernel.Settled
  waits : c.Waits .first 0 (.reading reader 0 reader.rsi.toNat reader.rdx.toNat)
  scheduled : c.kernel.scheduled = .first
  displayed : c.kernel.console.displayed = .first
  keyboard : c.keyboard = keyboard
  line : c.kernel.line .first = line

theorem prompts_booted : Prompts booted := by
  have settled : booted.kernel.Settled := settled_boot (by decide)
  obtain ⟨k, boots, console, roster⟩ := boot_of_startable (startable (k := shellKernel) rfl rfl)
  have boots : booted = _ := boots
  rw [boots] at settled ⊢
  have scheduled : k.scheduled = .first := by
    rw [← Kernel.scheduled_roster, roster]
    rfl
  have owner : (k.session k.scheduled).owner = some 0 := by
    change (k.roster.seat k.scheduled).owner = _
    rw [scheduled, roster, Roster.seat_park, Roster.seat_begin, if_pos rfl]
  obtain ⟨p, running, here⟩ := settled.current_of_runs (Kernel.runs_of_owner settled.sound owner)
  refine ⟨settled, rfl, ⟨p, running, here.trans scheduled⟩, ?_, ?_, rfl⟩
  · simp [Kernel.line, console, Kernel.new, Console.new, Console.terminal, Terminal.blank]
  · exact congrArg Console.displayed console

namespace Prompts

variable {c : Computer}

theorem editing (prompts : Prompts c) : (c.kernel.line .first).committed = false := by
  rw [prompts.line]
  rfl

theorem asks (prompts : Prompts c) : (c.step asking).1.running = .reading reader 0 0x8000000 16 ∧
    Asks (c.step asking).1 .initial .empty := by
  have editing := prompts.editing
  have settled' := settled_step prompts.settled asking
  obtain ⟨settled, call, ⟨p, running, terminal⟩, line, displayed, keyboard⟩ := prompts
  obtain ⟨number, input, low, high⟩ := reader_reads
  rw [← terminal] at editing
  obtain ⟨stopped, waits⟩ := waits_of_call settled call number input low high running editing
  have scheduled := (Kernel.owner_of_current settled.sound settled.onStack running).2
  rw [terminal] at waits scheduled
  rw [stopped] at waits settled' ⊢
  exact ⟨rfl, settled', waits, scheduled.symm, displayed, keyboard, line⟩

end Prompts

namespace Asks

variable {c : Computer} {keyboard keyboard' queued : Keyboard} {line : InputLine} {e : Event}

/-- An interrupt that hands nothing over wakes the shell. -/
theorem interrupt (asks : Asks c keyboard line) {h : Handover} (hands : c.HandsOver e h)
    (stays : h.transfer = .stay) (kept : h.parked.keyboard = keyboard')
    (displayed : h.parked.kernel.console.displayed = .first) :
    (∃ r fd address room, (c.step e).1.running = .woken r fd address room) ∧
      Asks (c.step e).1 keyboard' ((c.typed .first e).foldl InputLine.press line) := by
  have here : h.parked.kernel.scheduled = .first := by
    rw [scheduled_parked, scheduled_of_stay hands asks.settled stays, asks.scheduled]
  have goesOn := (asks.waits.continues_iff asks.settled hands).mpr here
  have settled := settled_step asks.settled e
  obtain ⟨waits, line⟩ := asks.waits.handsOver asks.settled hands
  rw [hands.line_eq asks.settled, asks.line] at line
  have after := asks.waits.after_of_continues asks.settled hands goesOn
  rw [after] at waits settled line ⊢
  exact ⟨⟨_, _, _, _, rfl⟩, settled, waits, here, displayed, kept, line⟩

theorem key (asks : Asks c keyboard line) {byte : UInt8} {key : Key}
    (received : keyboard.receive byte = (queued, none))
    (first : queued.read = (keyboard', some key)) (last : keyboard'.read = (keyboard', none))
    (plain : ∀ number, key ≠ .altF number) :
    c.typed .first (.key byte) = [key] ∧
      (∃ r fd address room, (c.step (.key byte)).1.running = .woken r fd address room) ∧
      Asks (c.step (.key byte)).1 keyboard' (line.press key) := by
  rw [← asks.keyboard] at received
  obtain ⟨typed, h, hands, stays, kept, displayed⟩ :=
    HandsOver.of_plain_key received first last plain
  rw [asks.displayed] at typed displayed
  have woken := asks.interrupt hands stays kept displayed
  rw [typed] at woken
  exact ⟨typed, woken⟩

theorem clock (asks : Asks c keyboard line) :
    (∃ r fd address room, (c.step .clock).1.running = .woken r fd address room) ∧
      Asks (c.step .clock).1 keyboard line :=
  asks.interrupt .clock rfl asks.keyboard asks.displayed

theorem retry (asks : Asks c keyboard line) (retries : c.Retries .first .retry)
    (editing : line.committed = false) : Asks (c.step .retry).1 keyboard line := by
  have settled := settled_step asks.settled .retry
  rw [← asks.line] at editing
  rw [((asks.waits.retry asks.settled retries).2 editing).2] at settled ⊢
  exact ⟨settled, ⟨asks.waits.owner, fun _ => .inl rfl, asks.waits.suspended⟩, asks.scheduled,
    asks.displayed, asks.keyboard, asks.line⟩

end Asks

/-- The keyboard when a letter was typed and taken. -/
def lettered : Keyboard := (Keyboard.initial.receive 0x1E).1.read.1

theorem receive_letter :
    Keyboard.initial.receive 0x1E = ((Keyboard.initial.receive 0x1E).1, none) ∧
      (Keyboard.initial.receive 0x1E).1.read = (lettered, some (.char 'a')) ∧
      lettered.read = (lettered, none) := ⟨rfl, rfl, rfl⟩

/-- The keyboard when Enter was typed then and taken. -/
def entered : Keyboard := (lettered.receive 0x1C).1.read.1

theorem receive_enter :
    lettered.receive 0x1C = ((lettered.receive 0x1C).1, none) ∧
      (lettered.receive 0x1C).1.read = (entered, some .enter) ∧
      entered.read = (entered, none) := ⟨rfl, rfl, rfl⟩

/-- A letter is typed and the clock interrupts before the shell tries to read again; then Enter is
typed. The latest event stands first. -/
def typing : List Event := [.key 0x1C, .retry, .clock, .key 0x1E]

/-- The one try while the letter and Enter are typed finds no line, and the next one does. -/
theorem Asks.typed {c : Computer} (asks : Asks c .initial .empty) :
    c.typedAll .first typing = [.char 'a', .enter] ∧ c.Unserved .first typing ∧
      (c.afterAll typing).Retries .first .retry := by
  obtain ⟨received, first, last⟩ := receive_letter
  obtain ⟨letter, -, lettered⟩ := asks.key received first last (by simp)
  obtain ⟨⟨_, _, _, _, woken⟩, ticked⟩ := lettered.clock
  have editing : (InputLine.empty.press (.char 'a')).committed = false := rfl
  have retried := ticked.retry ⟨rfl, ticked.scheduled, _, _, _, _, woken⟩ editing
  obtain ⟨received, first, last⟩ := receive_enter
  obtain ⟨enter, ⟨_, _, _, _, woken'⟩, entered⟩ := retried.key received first last (by simp)
  refine ⟨?_, ?_, rfl, entered.scheduled, _, _, _, _, woken'⟩
  · have letters : c.typedAll .first typing = (([] ++ c.typed .first (.key 0x1E)) ++ [] ++ []) ++
      ((((c.step (.key 0x1E)).1.step .clock).1.step .retry).1).typed .first (.key 0x1C) := rfl
    rw [letters, letter, enter]
    rfl
  · refine ⟨⟨⟨⟨trivial, ?_⟩, ?_⟩, fun _ => ?_⟩, ?_⟩
    · rintro ⟨⟨⟩, _⟩
    · rintro ⟨⟨⟩, _⟩
    · exact (congrArg InputLine.committed ticked.line).trans editing
    · rintro ⟨⟨⟩, _⟩

/-- What the shell finds after a try at which the letter and Enter are ready. -/
theorem delivered {c c' : Computer} {runs refused : Prop}
    (line : c.kernel.line .first = ⟨[0x61, 0x0A], true⟩)
    (tried : runs ∧ if (c.kernel.line .first).committed then
      Delivers c .first 0 reader reader.rsi.toNat reader.rdx.toNat c' else refused) :
    c'.running = .user { reader with rax := 2 } ∧
      c'.kernel.physicalByte (programSlot 0) = 0x61 ∧
      c'.kernel.physicalByte (programSlot 0 + 1) = 0x0A := by
  obtain ⟨_, delivers⟩ := tried
  rw [line, if_pos rfl] at delivers
  obtain ⟨count, bytes, _, _⟩ := delivers
  rw [line] at count bytes
  have first := bytes 0 (by decide)
  have second := bytes 1 (by decide)
  exact ⟨count, (Option.some_inj.mp first).symm, (Option.some_inj.mp second).symm⟩

end Sample

/-- The first shell reads, a letter and Enter are typed, and the read gets them. -/
theorem Computer.read_blocks_letter :
    (Sample.booted.step Sample.asking).1.running = .reading Sample.reader 0 0x8000000 16 ∧
      ((Sample.booted.step Sample.asking).1.afterAll (.retry :: Sample.typing)).running =
        .user { Sample.reader with rax := 2 } ∧
      ((Sample.booted.step Sample.asking).1.afterAll
        (.retry :: Sample.typing)).kernel.physicalByte (programSlot 0) = 0x61 ∧
      ((Sample.booted.step Sample.asking).1.afterAll
        (.retry :: Sample.typing)).kernel.physicalByte (programSlot 0 + 1) = 0x0A := by
  have prompts := Sample.prompts_booted
  obtain ⟨p, running, terminal⟩ := prompts.running
  obtain ⟨number, input, low, high⟩ := Sample.reader_reads
  have editing := prompts.editing
  obtain ⟨stopped, asks⟩ := prompts.asks
  obtain ⟨typed, unserved, retries⟩ := asks.typed
  rw [← terminal] at editing unserved retries
  obtain ⟨_, line, _, tries⟩ := read_blocks (by decide)
    (show Sample.booted = (boot Sample.shellFiles Sample.arena Sample.storage).afterAll [] from rfl)
    prompts.call number input low high running editing rfl unserved
    (show (Sample.booted.step Sample.asking).1.afterAll Sample.typing = _ from rfl)
  have both : [Key.char 'a', Key.enter].foldl InputLine.press .empty = ⟨[0x61, 0x0A], true⟩ := rfl
  rw [terminal, typed, prompts.line, both] at line
  rw [terminal] at tries retries
  rw [afterAll]
  exact ⟨stopped, Sample.delivered line (tries .retry retries)⟩

end TerminalKernel

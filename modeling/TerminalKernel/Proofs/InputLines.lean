import TerminalKernel.Proofs.ConsoleSteps
import TerminalKernel.Proofs.DescriptorTable
import TerminalKernel.Proofs.VideoWindow

/-!
# Lines of input

The line of a terminal is what the keys that came while the terminal was displayed and the reads of
its own processes make of it, whatever else happened in between (`Run.line_eq`). An editor that is
given these inputs and nothing else stands for the terminal, and about the editor alone it is plain
that every line it commits goes to one read, in the order in which the lines were typed.
-/

namespace TerminalKernel

/-! ## An editor without a screen -/

/-- What reaches the line of a terminal. -/
inductive LineInput
  | press (key : Key)
  /-- A process of the terminal reads into a buffer with the given room. -/
  | read (room : Nat)
  deriving DecidableEq, Repr

namespace InputLine

/-- Edit the line with one key. The last place is kept for the newline. -/
def press (l : InputLine) (key : Key) : InputLine :=
  if l.committed then l
  else
    match key with
    | .char c =>
      if c.toNat < 128 ∧ l.text.length < lineBufferSize - 1 then
        ⟨l.text ++ [c.toNat.toUInt8], false⟩
      else l
    | .enter => ⟨l.text ++ [0x0A], true⟩
    | .backspace => ⟨l.text.dropLast, false⟩
    | .ctrl _ | .altF _ | .unknown => l

def receive (l : InputLine) : LineInput → InputLine
  | .press key => l.press key
  | .read _ => if l.committed then empty else l

/-- The line after some inputs, the latest first. -/
def after : List LineInput → InputLine
  | [] => empty
  | input :: earlier => (after earlier).receive input

/-- The lines that some inputs commit, the latest first. -/
def committedBy : List LineInput → List (List UInt8)
  | [] => []
  | input :: earlier =>
    if input = .press .enter ∧ (after earlier).committed = false then
      ((after earlier).text ++ [0x0A]) :: committedBy earlier
    else committedBy earlier

/-- The line that waits for a read, if there is one. -/
def waiting (l : InputLine) : List (List UInt8) := if l.committed then [l.text] else []

/-- What an input gets of the line: its room, and the bytes that it takes. -/
def answer? (l : InputLine) : LineInput → Option (Nat × List UInt8)
  | .press _ => none
  | .read room => (l.take? room).map (room, ·)

/-- What the reads among some inputs get, the latest first. -/
def answersTo : List LineInput → List (Nat × List UInt8)
  | [] => []
  | input :: earlier => ((after earlier).answer? input).toList ++ answersTo earlier

/-- A read has the line: as much of its start as there is room for. -/
def Delivers (answer : Nat × List UInt8) (line : List UInt8) : Prop :=
  answer.2 = line.take answer.1

variable {l : InputLine}

theorem press_of_committed (ready : l.committed = true) (key : Key) : l.press key = l := if_pos ready

theorem press_altF (l : InputLine) (number : Nat) : l.press (.altF number) = l := ite_self l

theorem committed_press {key : Key} (editing : l.committed = false) (other : key ≠ .enter) :
    (l.press key).committed = false := by
  have notReady : ¬ l.committed = true := by simp [editing]
  unfold press
  rw [if_neg notReady]
  cases key with
  | char c =>
    dsimp only
    split
    · rfl
    · exact editing
  | enter => exact absurd rfl other
  | backspace => rfl
  | ctrl _ | altF _ | unknown => exact editing

theorem waiting_of_editing (editing : l.committed = false) : l.waiting = [] := by
  rw [waiting, editing, if_neg Bool.false_ne_true]

theorem waiting_of_committed (ready : l.committed = true) : l.waiting = [l.text] := if_pos ready

/-- Whatever the inputs are, the lines they commit go to the reads among them one by one, but for a
line that still waits. -/
theorem committedBy_eq (inputs : List LineInput) :
    ∃ lines, committedBy inputs = (after inputs).waiting ++ lines ∧
      List.Forall₂ Delivers (answersTo inputs) lines := by
  induction inputs with
  | nil => exact ⟨[], rfl, .nil⟩
  | cons input earlier ih =>
    obtain ⟨lines, committed, delivered⟩ := ih
    generalize same : after earlier = l at committed
    rw [committedBy, answersTo, after, same]
    cases ready : l.committed with
    | true =>
      rw [waiting_of_committed ready] at committed
      rw [if_neg (by simp)]
      cases input with
      | press key =>
        refine ⟨lines, ?_, delivered⟩
        rw [receive, press_of_committed ready, waiting_of_committed ready, committed]
      | read room =>
        have taken : l.answer? (.read room) = some (room, l.text.take room) := by
          rw [answer?, take?, if_pos ready, Option.map_some]
        refine ⟨l.text :: lines, ?_, ?_⟩
        · rw [receive, if_pos ready, committed]
          rfl
        · rw [taken]
          exact .cons rfl delivered
    | false =>
      rw [waiting_of_editing ready] at committed
      cases input with
      | press key =>
        by_cases enter : key = .enter
        · subst enter
          refine ⟨lines, ?_, delivered⟩
          have commits : l.press .enter = ⟨l.text ++ [0x0A], true⟩ := by
            simp only [press, ready, Bool.false_eq_true, ↓reduceIte]
          rw [if_pos ⟨rfl, rfl⟩, committed, receive, commits]
          rfl
        · refine ⟨lines, ?_, delivered⟩
          rw [if_neg (by simp [enter]), receive, waiting_of_editing (committed_press ready enter),
            committed]
      | read room =>
        have missing : l.answer? (.read room) = none := by
          rw [answer?, take?, ready, if_neg Bool.false_ne_true, Option.map_none]
        refine ⟨lines, ?_, ?_⟩
        · rw [if_neg (by simp), receive, ready, if_neg Bool.false_ne_true, waiting_of_editing ready,
            committed]
        · rw [missing]
          exact delivered

end InputLine

/-- Echoing a key on the screen makes no difference to the line. -/
theorem Editor.line_press (e : Editor) (key : Key) : (e.press key).line = e.line.press key := by
  unfold Editor.press InputLine.press
  split
  · rfl
  · rename_i editing
    rw [Bool.not_eq_true] at editing
    cases key with
    | char c =>
      dsimp only
      split
      · rw [editing]
      · rfl
    | enter => rfl
    | backspace =>
      dsimp only
      split
      · rename_i empty
        rw [List.isEmpty_iff] at empty
        rw [empty, List.dropLast_nil, ← empty, ← editing]
      · rw [editing]
    | ctrl c =>
      dsimp only
      split <;> rfl
    | altF _ | unknown => rfl

/-! ## Inputs of a terminal -/

namespace Kernel

def currentTerminal? (k : Kernel) : Option TerminalId :=
  match k.current with
  | .ok (_, p) => some p.terminal
  | .error _ => none

/-- What reaches the line of terminal `t` with an action: a key while it is displayed, or a read by
its running process. -/
def lineInput? (k : Kernel) (t : TerminalId) : Action → Option LineInput
  | .key key => if k.console.displayed = t then some (.press key) else none
  | .read fd (some room) =>
    if fd = 0 ∧ k.currentTerminal? = some t then some (.read room) else none
  | _ => none

/-- A read of input by a process of terminal `t` that was answered: its room, and the bytes it
got. -/
def answeredRead? (k : Kernel) (t : TerminalId) : Action → Option (Nat × List UInt8)
  | .read fd (some room) =>
    if fd = 0 ∧ k.currentTerminal? = some t ∧ (k.read fd (some room)).2.failure = none then
      some (room, (k.read fd (some room)).2.bytes)
    else none
  | _ => none

variable {k : Kernel} {pid : ProcessId} {p : ProcessRecord TerminalId} {t : TerminalId}
  {a : Action} {c : Console}

theorem currentTerminal?_of_current (running : k.current = .ok (pid, p)) :
    k.currentTerminal? = some p.terminal := by
  simp only [currentTerminal?, running]

theorem exists_current (here : k.currentTerminal? = some t) :
    ∃ pid p, k.current = .ok (pid, p) ∧ p.terminal = t := by
  unfold currentTerminal? at here
  split at here
  · rename_i pid p running
    exact ⟨pid, p, running, Option.some_inj.mp here⟩
  · cases here

abbrev Tabled (k : Kernel) : Prop := ∀ pid o, k.holdings pid = some o → o.Tabled

theorem Tabled.input (tabled : k.Tabled) (running : k.current = .ok (pid, p)) :
    p.descriptor? 0 = some (.unfiled .terminalIn) :=
  (tabled pid _ (holdings_of_current running)).input

theorem read_input (tabled : k.Tabled) (running : k.current = .ok (pid, p)) (room : Nat) :
    k.read 0 (some room) = k.readLine p.terminal room := by
  simp only [read, currentDescriptor, running, tabled.input running]
  rfl

theorem lineInput?_of_quiet (quiet : a.isInput = false) : k.lineInput? t a = none := by
  cases a with
  | key _ | read _ _ => cases quiet
  | start | execute _ | halt _ | openFile _ | closeFile _ | write _ _ | getArgs _ | mapVideo _
  | writeScreen _ _ _ | store _ _ | tick | switchTerminal _ | clockTick | emit _ => rfl

/-- A step of the console does to a line what reaches the line with the action. -/
theorem ConsoleStep.line_eq (step : k.ConsoleStep a c) (tabled : k.Tabled) (t : TerminalId) :
    (c.terminal t).line = (k.lineInput? t a).elim (k.line t) (k.line t).receive := by
  cases step with
  | redraw quiet redraws =>
    rw [lineInput?_of_quiet quiet, Console.line_redraws redraws]
    rfl
  | pressed key =>
    have editor := congrArg Editor.line (k.console.editorOf_receiveKey key t)
    rw [apply_ite Editor.line, Editor.line_press] at editor
    rw [lineInput?]
    split
    · rename_i shown
      rw [if_pos shown] at editor
      exact editor
    · rename_i hidden
      rw [if_neg hidden] at editor
      exact editor
  | @selected number _ redraws =>
    rw [lineInput?, Console.line_redraws redraws]
    split
    · exact ((k.line t).press_altF number).symm
    · rfl
  | @took pid p fd room d running bound input ready =>
    have fd_eq : fd = 0 :=
      (tabled pid _ (holdings_of_current running)).eq_zero_of_terminalIn bound input
    rw [lineInput?, currentTerminal?_of_current running, Console.clearLine, Console.terminal_setTerminal]
    by_cases here : p.terminal = t
    · subst here
      rw [if_pos rfl, if_pos ⟨fd_eq, rfl⟩]
      exact (if_pos ready).symm
    · rw [if_neg here, if_neg fun own => here (Option.some_inj.mp own.2)]
      rfl
  | @unread fd room nothing =>
    cases room with
    | none => rfl
    | some room =>
      rw [lineInput?]
      split
      · rename_i own
        obtain ⟨rfl, here⟩ := own
        obtain ⟨pid, p, running, rfl⟩ := exists_current here
        have editing := nothing pid p _ running (tabled.input running) rfl rfl
        rw [Option.elim_some, InputLine.receive, line, editing, if_neg Bool.false_ne_true]
      · rfl

theorem answeredRead?_eq (tabled : k.Tabled) (t : TerminalId) (a : Action) :
    k.answeredRead? t a = (k.lineInput? t a).bind (k.line t).answer? := by
  cases a with
  | key key =>
    rw [lineInput?]
    split <;> rfl
  | read fd room =>
    cases room with
    | none => rfl
    | some room =>
      rw [lineInput?, answeredRead?]
      by_cases own : fd = 0 ∧ k.currentTerminal? = some t
      · obtain ⟨rfl, here⟩ := own
        obtain ⟨pid, p, running, rfl⟩ := exists_current here
        have reads : (some (LineInput.read room)).bind (k.line p.terminal).answer? =
            ((k.line p.terminal).take? room).map (room, ·) := rfl
        rw [if_pos (show 0 = 0 ∧ k.currentTerminal? = some p.terminal from ⟨rfl, here⟩), reads,
          read_input tabled running, InputLine.take?]
        cases ready : (k.line p.terminal).committed with
        | true =>
          rw [readLine_of_committed ready, if_pos ⟨rfl, here, rfl⟩, if_pos rfl]
          rfl
        | false =>
          rw [readLine_of_editing ready, if_neg (by simp [Delivery.fail]), if_neg Bool.false_ne_true]
          rfl
      · rw [if_neg own, if_neg fun both => own ⟨both.1, both.2.1⟩]
        rfl
  | start | execute _ | halt _ | openFile _ | closeFile _ | write _ _ | getArgs _ | mapVideo _
  | writeScreen _ _ _ | store _ _ | tick | switchTerminal _ | clockTick | emit _ => rfl

/-- What reading input does: it takes the line that is ready and copies its start, or it is refused
and changes nothing. -/
theorem readInto_input (tabled : k.Tabled) (running : k.current = .ok (pid, p))
    (buffer : List UInt8) :
    k.readInto 0 buffer =
      if (k.line p.terminal).committed then
        ({ k with console := k.console.clearLine p.terminal },
          (k.line p.terminal).text.take buffer.length ++
            buffer.drop (k.line p.terminal).text.length,
          .ok (min buffer.length (k.line p.terminal).text.length))
      else (k, buffer, .error .wouldBlock) := by
  rw [readInto, read_input tabled running]
  cases ready : (k.line p.terminal).committed with
  | true =>
    have rest : buffer.drop ((k.line p.terminal).text.take buffer.length).length =
        buffer.drop (k.line p.terminal).text.length := by
      rw [List.length_take]
      rcases Nat.le_total (k.line p.terminal).text.length buffer.length with fits | longer
      · rw [Nat.min_eq_right fits]
      · rw [Nat.min_eq_left longer, List.drop_length, List.drop_eq_nil_of_le longer]
    have count : ((k.line p.terminal).text.take buffer.length).length =
        min buffer.length (k.line p.terminal).text.length := List.length_take
    rw [readLine_of_committed ready, if_pos rfl]
    dsimp only [Delivery.done, Delivery.count, Bytes.fill]
    rw [rest, count]
  | false =>
    rw [readLine_of_editing ready, if_neg Bool.false_ne_true]
    rfl

end Kernel

/-! ## Over a run -/

namespace Moment

/-- What reached the line of a terminal over a history, the latest first. -/
def inputsOf (t : TerminalId) : List Moment → List LineInput
  | [] => []
  | m :: earlier => (m.before.lineInput? t m.action).toList ++ inputsOf t earlier

/-- The reads of input that were answered on a terminal over a history, the latest first. -/
def answersOn (t : TerminalId) : List Moment → List (Nat × List UInt8)
  | [] => []
  | m :: earlier => (m.before.answeredRead? t m.action).toList ++ answersOn t earlier

end Moment

namespace Run

open Moment

variable {files : FileSystem} {arena : Arena} {storage : Kernel.Storage} {h : List Moment}
  {k : Kernel}

theorem allTabled (run : Run (.new files arena storage) h k) : k.Tabled :=
  fun _ _ live => run.tabled live

theorem line_latest {m : Moment} (run : Run (.new files arena storage) (m :: h) k)
    (t : TerminalId) : k.line t =
      (m.before.lineInput? t m.action).elim (m.before.line t) (m.before.line t).receive :=
  run.console_latest.line_eq run.latest.1.allTabled t

/-- The line of a terminal is what reached it. -/
theorem line_eq (run : Run (.new files arena storage) h k) (t : TerminalId) :
    k.line t = .after (inputsOf t h) := by
  induction h generalizing k with
  | nil =>
    cases run
    simp [Kernel.line, Kernel.withStackPointer, Kernel.new, Console.new, Console.terminal,
      Terminal.blank, inputsOf, InputLine.after]
  | cons m h ih =>
    rw [run.line_latest t, ih run.latest.1, inputsOf]
    cases m.before.lineInput? t m.action <;> rfl

/-- The answered reads are the reads that the lone editor answers. -/
theorem answersOn_eq (run : Run (.new files arena storage) h k) (t : TerminalId) :
    answersOn t h = InputLine.answersTo (inputsOf t h) := by
  induction h generalizing k with
  | nil => rfl
  | cons m h ih =>
    have before := run.latest.1
    have answered := Kernel.answeredRead?_eq before.allTabled t m.action
    rw [before.line_eq t] at answered
    rw [answersOn, inputsOf, answered, ih before]
    cases m.before.lineInput? t m.action <;> rfl

/-- At every moment of a run, the line of each terminal is that of an editor which got only the keys
that came while the terminal was displayed and the reads of the terminal's own processes. The lines
typed on it went to these reads one by one in their order, each to one read, but for the line that
may still wait; and a read by the running process is answered at once if a line waits, and is else
refused without a trace. -/
theorem lines_delivered (run : Run (.new files arena storage) h k) :
    (∀ t, k.line t = .after (inputsOf t h)) ∧
    (∀ t, ∃ lines,
      InputLine.committedBy (inputsOf t h) = (k.line t).waiting ++ lines ∧
        List.Forall₂ InputLine.Delivers (answersOn t h) lines) ∧
    ∀ pid p, k.current = .ok (pid, p) → ∀ buffer,
      k.readInto 0 buffer =
        if (k.line p.terminal).committed then
          ({ k with console := k.console.clearLine p.terminal },
            (k.line p.terminal).text.take buffer.length ++
              buffer.drop (k.line p.terminal).text.length,
            .ok (min buffer.length (k.line p.terminal).text.length))
        else (k, buffer, .error .wouldBlock) := by
  refine ⟨run.line_eq, fun t => ?_, fun pid p running buffer => ?_⟩
  · rw [run.line_eq, run.answersOn_eq]
    exact InputLine.committedBy_eq _
  · exact Kernel.readInto_input run.allTabled running buffer

end Run

/-! ## A line that is typed and read -/

namespace Sample

open Moment

theorem act_key (k : Kernel) {key : Key} (plain : ∀ number, key ≠ .altF number) :
    k.act (.key key) = ((k.receiveKey key).1, .stay) := by
  rcases k.handleKey_cases key with taken | ⟨⟨number, selects⟩, -⟩
  · exact taken
  · exact absurd selects (plain number)

theorem keyed {earlier : List Action} {key : Key} (plain : ∀ number, key ≠ .altF number)
    (same : (played earlier).2.roster = started)
    (shown : (played earlier).2.console.displayed = .first) :
    (played (.key key :: earlier)).2.roster = started ∧
      (played (.key key :: earlier)).2.console.displayed = .first := by
  constructor
  · rw [roster_played, act_key _ plain, (Kernel.onlyDevices_receiveKey _ key).roster, same]
    rfl
  · rw [console_played, act_key _ plain, Kernel.console_receiveKey, Console.displayed_receiveKey,
      shown]

theorem inputsOf_keyed {earlier : List Action} (key : Key)
    (shown : (played earlier).2.console.displayed = .first) :
    inputsOf .first (played (.key key :: earlier)).1 =
      .press key :: inputsOf .first (played earlier).1 := by
  have input : (played earlier).2.lineInput? .first (.key key) = some (.press key) := if_pos shown
  change ((played earlier).2.lineInput? .first (.key key)).toList ++ _ = _
  rw [input]
  rfl

theorem run_typed : Run shellKernel (played [.key .enter, .key (.char 'a'), .start]).1
    (played [.key .enter, .key (.char 'a'), .start]).2 :=
  run_played ⟨by simp, ⟨by simp, ⟨by simp, trivial⟩⟩⟩

theorem typed : inputsOf .first (played [.key .enter, .key (.char 'a'), .start]).1 =
      [.press .enter, .press (.char 'a')] ∧
    (played [.key .enter, .key (.char 'a'), .start]).2.roster = started := by
  have letter : ∀ number, Key.char 'a' ≠ .altF number := by simp
  have enter : ∀ number, Key.enter ≠ .altF number := by simp
  obtain ⟨first, shown⟩ := keyed letter roster_started displayed_started
  refine ⟨?_, (keyed enter first shown).1⟩
  rw [inputsOf_keyed .enter shown, inputsOf_keyed (.char 'a') displayed_started]
  rfl

end Sample

/-- A letter and Enter are typed, and a read into one byte gets the letter. -/
theorem lines_delivered_typed :
    Run Sample.shellKernel (Sample.played [.key .enter, .key (.char 'a'), .start]).1
        (Sample.played [.key .enter, .key (.char 'a'), .start]).2 ∧
      (Sample.played [.key .enter, .key (.char 'a'), .start]).2.line .first =
        ⟨[0x61, 0x0A], true⟩ ∧
      ((Sample.played [.key .enter, .key (.char 'a'), .start]).2.readInto 0 [0]).2 =
        ([0x61], .ok 1) := by
  obtain ⟨inputs, same⟩ := Sample.typed
  obtain ⟨scheduled, owner⟩ := Sample.owner_started same
  obtain ⟨p, running, terminal⟩ := Sample.run_typed.current_of_owner owner
  obtain ⟨lines, _, reads⟩ := Run.lines_delivered Sample.run_typed
  have line := lines .first
  rw [inputs] at line
  have read := reads 0 p running [0]
  rw [terminal, scheduled, line] at read
  exact ⟨Sample.run_typed, line, by rw [read]; rfl⟩

end TerminalKernel

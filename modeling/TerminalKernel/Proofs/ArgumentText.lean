import TerminalKernel.Proofs.BoundedCopies
import TerminalKernel.Proofs.DescriptorCalls
import TerminalKernel.Proofs.StoredBytes

/-!
# Argument text

A command hands a text to the program it starts: what stands between the first space and the end of
the command. The process keeps it for as long as it lives, whatever else happens, and gets it whenever
it asks, cut or padded to the size of an argument buffer (`Run.arguments_intact`). Numbers of
processes are used again, so that it takes the history to tell whose text a process has.
-/

namespace TerminalKernel

/-! ## Commands with and without a text -/

namespace Command

/-- Whether a byte belongs to the name if the bytes before it do. -/
def inName (b : UInt8) : Bool := b != space && !isEnd b

/-- Whether a byte belongs to the text if the bytes before it do. -/
def inText (b : UInt8) : Bool := !isEnd b

/-- The line gives the text to the program with the name. Behind the text the line is over, or a NUL
or a newline ends the command. -/
structure Gives (line name text : List UInt8) : Prop where
  parts : ∃ rest, line = name ++ space :: (text ++ rest) ∧
    ∀ b, rest.head? = some b → isEnd b = true
  name : ∀ b ∈ name, b ≠ space ∧ isEnd b = false
  text : ∀ b ∈ text, isEnd b = false

/-- There is no space before the command ends. -/
def Bare (line : List UInt8) : Prop := space ∉ line.takeWhile (!isEnd ·)

theorem parse_eq (line : List UInt8) : parse line =
    ⟨line.takeWhile inName, match line.dropWhile inName with
      | [] => []
      | b :: rest => if b = space then rest.takeWhile inText else []⟩ := rfl

/-- What is counted ends where the rest stops it. -/
theorem takeWhile_append_of_stop {p : UInt8 → Bool} {body rest : List UInt8}
    (inside : ∀ b ∈ body, p b = true) (stops : ∀ b, rest.head? = some b → p b = false) :
    (body ++ rest).takeWhile p = body := by
  have behind : rest.takeWhile p = [] := by
    cases rest with
    | nil => rfl
    | cons b rest => rw [List.takeWhile_cons_of_neg (by simp [stops b rfl])]
  rw [List.takeWhile_append_of_pos inside, behind, List.append_nil]

/-- The name ends at the space, and the text at the end of the command; further spaces belong to the
text. -/
theorem Gives.parse_eq {line name text : List UInt8} (gives : Gives line name text) :
    parse line = ⟨name, text⟩ := by
  obtain ⟨rest, rfl, ended⟩ := gives.parts
  have counted : ∀ b ∈ name, inName b = true := by
    intro b inside
    obtain ⟨other, goesOn⟩ := gives.name b inside
    simp [inName, other, goesOn]
  have atSpace : ∀ b, (space :: (text ++ rest)).head? = some b → inName b = false := by
    rintro _ ⟨⟩
    rfl
  have whole : (text ++ rest).takeWhile inText = text :=
    takeWhile_append_of_stop (fun b inside => by simp [inText, gives.text b inside])
      fun b first => by simp [inText, ended b first]
  rw [Command.parse_eq, takeWhile_append_of_stop counted atSpace,
    List.dropWhile_append_of_pos counted, List.dropWhile_cons_of_neg (by decide)]
  simp only [↓reduceIte, whole]

theorem Bare.args_eq {line : List UInt8} (bare : Bare line) : (parse line).args = [] := by
  rw [Command.parse_eq]
  induction line with
  | nil => rfl
  | cons b rest ih =>
    cases ends : isEnd b with
    | true =>
      have other : b ≠ space := by
        rintro rfl
        exact absurd ends (by decide)
      rw [List.dropWhile_cons_of_neg (by simp [inName, ends])]
      exact if_neg other
    | false =>
      rw [Bare, List.takeWhile_cons_of_pos (by simp [ends]), List.mem_cons, not_or] at bare
      rw [List.dropWhile_cons_of_pos (by simp [inName, ends, Ne.symm bare.1])]
      exact ih bare.2

end Command

/-! ## What a process gets -/

theorem Bytes.headD_padTo_ne_zero_iff {size : Nat} (some : 0 < size) {text : List UInt8}
    (plain : ∀ b ∈ text, b ≠ 0) : (padTo size text).headD 0 ≠ 0 ↔ text ≠ [] := by
  obtain ⟨size, rfl⟩ := Nat.exists_eq_succ_of_ne_zero some.ne'
  cases text with
  | nil => simp [padTo, List.replicate_succ]
  | cons b rest => simp [padTo, plain b List.mem_cons_self]

/-- As much as there is room for is copied to the start of a buffer. -/
theorem Bytes.fill_take {bytes buffer : List UInt8} {size room : Nat} (whole : bytes.length = size)
    (length : buffer.length = room) :
    fill buffer (bytes.take room) = bytes.take room ++ buffer.drop size := by
  subst whole length
  rw [fill, List.length_take]
  rcases Nat.le_total bytes.length buffer.length with large | small
  · rw [Nat.min_eq_right large]
  · rw [Nat.min_eq_left small, List.drop_length, List.drop_of_length_le small]

namespace Kernel

/-- Ask for the arguments with a buffer: what the buffer holds afterwards, and what the call
returns. -/
def getArgsInto (k : Kernel) (buffer : List UInt8) : List UInt8 × Except SyscallError Nat :=
  match k.getArgs (some buffer.length) with
  | .error cause => (buffer, .error cause)
  | .ok bytes => (Bytes.fill buffer bytes, .ok 0)

/-- The running process was given the text. It is copied, cut or padded with zeros to the size of an
argument buffer, as far as there is room, and what lies beyond is left alone; only if there is no text
the call fails. -/
structure ReturnsText (k : Kernel) (text : List UInt8) : Prop where
  fails : ∀ buffer, (∃ cause, (k.getArgsInto buffer).2 = .error cause) ↔ text = []
  none : text = [] → ∀ buffer, k.getArgsInto buffer = (buffer, .error .invalidArgument)
  copied : text ≠ [] → ∀ buffer, k.getArgsInto buffer =
    ((Bytes.padTo maxArgsLength text).take buffer.length ++ buffer.drop maxArgsLength, .ok 0)

variable {k : Kernel} {pid : ProcessId} {p : ProcessRecord TerminalId} {text : List UInt8}

theorem getArgs_of_text (running : k.current = .ok (pid, p))
    (keeps : p.args = Bytes.padTo maxArgsLength text) (plain : ∀ b ∈ text, b ≠ 0) (room : Nat) :
    k.getArgs (some room) = if text = [] then .error .invalidArgument
      else .ok ((Bytes.padTo maxArgsLength text).take room) := by
  have given : p.hasArgs = true ↔ text ≠ [] := by
    rw [← Bytes.headD_padTo_ne_zero_iff (show 0 < maxArgsLength by decide) plain, ← keeps,
      ProcessRecord.hasArgs, bne_iff_ne]
  simp only [getArgs, running]
  by_cases empty : text = []
  · rw [if_neg (by simp [given, empty]), if_pos empty]
  · rw [if_pos (given.mpr empty), if_neg empty, keeps]

theorem returnsText (running : k.current = .ok (pid, p))
    (keeps : p.args = Bytes.padTo maxArgsLength text) (plain : ∀ b ∈ text, b ≠ 0) :
    k.ReturnsText text := by
  have none (empty : text = []) (buffer : List UInt8) :
      k.getArgsInto buffer = (buffer, .error .invalidArgument) := by
    rw [getArgsInto, getArgs_of_text running keeps plain, if_pos empty]
  have copied (given : text ≠ []) (buffer : List UInt8) : k.getArgsInto buffer =
      ((Bytes.padTo maxArgsLength text).take buffer.length ++ buffer.drop maxArgsLength, .ok 0) := by
    rw [getArgsInto, getArgs_of_text running keeps plain, if_neg given]
    dsimp only
    rw [Bytes.fill_take (Bytes.length_padTo maxArgsLength text) rfl]
  refine ⟨fun buffer => ⟨?_, fun empty => ⟨_, by rw [none empty]⟩⟩, none, copied⟩
  rintro ⟨cause, failed⟩
  by_contra given
  rw [copied given] at failed
  cases failed

end Kernel

namespace Computer

open Kernel

variable {c : Computer} {pid : ProcessId} {p : ProcessRecord TerminalId} {text : List UInt8}
  {r : Registers}

/-- The program asks for its arguments with a buffer in its memory. -/
structure AsksText (c : Computer) (r : Registers) : Prop where
  call : Syscall.ofNumber? r.rax.toNat = some .getArgs
  buffer : r.rdi ≠ 0
  accepted : c.kernel.acceptsRange r.rdi.toNat r.rsi.toNat = true

theorem AsksText.userBuffer? (asks : c.AsksText r) :
    c.kernel.userBuffer? r.rdi.toNat r.rsi.toNat = some (.block r.rdi.toNat r.rsi.toNat) := by
  have address : r.rdi.toNat ≠ 0 := fun zero => asks.buffer (UInt64.toNat_inj.mp zero)
  exact (if_neg address).trans (if_pos asks.accepted)

/-- The program that asks for its arguments was given the text, and finds it in its memory. -/
structure ReturnsText (c : Computer) (text : List UInt8) (r : Registers) : Prop where
  none : text = [] → c.dispatch r = c.answer r failed
  copied : text ≠ [] → ∃ k, c.dispatch r = (c.withKernel k).answer r 0 ∧
    k.userBytes r.rdi.toNat r.rsi.toNat =
      (Bytes.padTo maxArgsLength text).take r.rsi.toNat ++
        (c.kernel.userBytes r.rdi.toNat r.rsi.toNat).drop maxArgsLength

theorem returnsText (running : c.kernel.current = .ok (pid, p)) (serves : c.kernel.Serves pid)
    (keeps : p.args = Bytes.padTo maxArgsLength text) (plain : ∀ b ∈ text, b ≠ 0)
    (asks : c.AsksText r) : c.ReturnsText text r := by
  have answered : c.dispatch r = c.callGetArgs r r.rdi.toNat r.rsi.toNat := by
    simp only [dispatch, asks.call]
  have returned := getArgs_of_text running keeps plain r.rsi.toNat
  rw [callGetArgs, asks.userBuffer?] at answered
  dsimp only at answered
  refine ⟨fun empty => ?_, fun given => ?_⟩
  · rw [answered, returned, if_pos empty]
  · have length := Bytes.length_padTo maxArgsLength text
    have had : (c.kernel.userBytes r.rdi.toNat r.rsi.toNat).length = r.rsi.toNat := by
      rw [userBytes, List.length_map, List.length_range]
    have fits : ((Bytes.padTo maxArgsLength text).take r.rsi.toNat).length ≤ r.rsi.toNat := by
      rw [List.length_take]
      exact Nat.min_le_left _ _
    rw [returned, if_neg given] at answered
    refine ⟨_, answered, ?_⟩
    rw [userBytes_storeUser serves asks.accepted fits, Bytes.fill_take length had]

end Computer

/-! ## Keeping the text -/

/-- The action gives the text to what it starts. One that ends its caller has none for the shell that
may take its place. -/
def Action.GivesText (a : Action) (text : List UInt8) : Prop :=
  a.givenArgs = text ∧ (a.exitStatus?.isSome → text = [])

theorem Command.Gives.givesText {line name text : List UInt8} (gives : Gives line name text)
    (other : name ≠ exitName) : (Action.execute line).GivesText text := by
  refine ⟨by rw [Action.givenArgs, gives.parse_eq], fun ends => ?_⟩
  rw [Action.exitStatus?, gives.parse_eq, if_neg other] at ends
  cases ends

namespace Kernel

variable {k : Kernel} {pid : ProcessId} {text : List UInt8}

variable {a : Action} {transfer : Transfer} {held : ProcessId → Option Holdings} {o : Holdings}

theorem HoldingsStep.args_of_launches (step : HoldingsStep k a transfer held)
    (starts : transfer.Launches pid) (gives : a.GivesText text) : held pid = some (.new text) := by
  cases step with
  | keep quiet | finish _ _ quiet => exact absurd starts (quiet pid)
  | rebind _ _ => exact absurd starts (Transfer.not_launches (by simp) pid)
  | replace _ ends _ =>
    obtain ⟨_, same, rfl⟩ := starts
    cases same
    rw [gives.2 ends]
    exact Function.update_self ..
  | launch _ =>
    obtain ⟨_, same, rfl⟩ := starts
    cases same
    rw [← gives.1]
    exact Function.update_self ..

theorem HoldingsStep.args_kept (step : HoldingsStep k a transfer held)
    (quiet : ¬ transfer.Launches pid) (after : held pid = some o) :
    ∃ o', k.holdings pid = some o' ∧ o'.args = o.args := by
  have ended {q : ProcessId} (after : Function.update k.holdings q none pid = some o) :
      k.holdings pid = some o := by
    rw [Function.update_apply] at after
    split at after
    · cases after
    · exact after
  cases step with
  | keep _ => exact ⟨o, after, rfl⟩
  | finish _ _ _ => exact ⟨o, ended after, rfl⟩
  | @rebind q p _ _ running _ =>
    by_cases own : pid = q
    · subst own
      rw [Function.update_self, Option.some_inj] at after
      exact ⟨p.holdings, holdings_of_current running, after ▸ rfl⟩
    · rw [Function.update_of_ne own] at after
      exact ⟨o, after, rfl⟩
  | @launch l _ | @replace _ _ l _ _ _ =>
    have other : pid ≠ l.pid := fun same => quiet ⟨l, rfl, same.symm⟩
    rw [Function.update_of_ne other] at after
    first
    | exact ⟨o, after, rfl⟩
    | exact ⟨o, ended after, rfl⟩

end Kernel

open Kernel

namespace Run

variable {files : FileSystem} {arena : Arena} {storage : Kernel.Storage} {k₀ k : Kernel}
  {h later : List Moment} {m : Moment} {pid : ProcessId} {line text : List UInt8}

/-- From the action that started it to the end of a run a process has the text that was given. -/
theorem args_since (run : Run k₀ h k) (since : Since h pid m later)
    (gives : m.action.GivesText text) :
    ∃ o, k.holdings pid = some o ∧ o.args = Bytes.padTo maxArgsLength text := by
  obtain ⟨⟨earlier, rfl⟩, launches, kept⟩ := since
  induction later generalizing k with
  | nil => exact ⟨_, run.holdings_latest.args_of_launches launches gives, rfl⟩
  | cons e later ih =>
    obtain ⟨keeps, keptBefore⟩ := List.forall_mem_cons.mp kept
    obtain ⟨p, live⟩ := ProcessTable.isLive_iff.mp keeps.after
    have here : k.holdings pid = some p.holdings := by
      rw [run.holdings_eq, ← e.holdings_after, holdings, live, Option.map_some]
    obtain ⟨o, before, same⟩ := run.holdings_latest.args_kept keeps.notLaunched here
    cases run with
    | step run _ _ _ _ _ =>
      obtain ⟨o', since, text⟩ := ih keptBefore run
      cases before.symm.trans since
      exact ⟨_, here, same.symm.trans text⟩

theorem returnsText_since (run : Run (.new files arena storage) h k) (since : Since h pid m later)
    (gives : m.action.GivesText text) (plain : ∀ b ∈ text, b ≠ 0)
    (current : k.currentPid? = some pid) :
    k.ReturnsText text ∧ ∀ (c : Computer) r, c.kernel = k → c.AsksText r → c.ReturnsText text r := by
  obtain ⟨o, held, args⟩ := run.args_since since gives
  obtain ⟨p, running, rfl⟩ := current_of_held current held
  refine ⟨returnsText running args plain, ?_⟩
  rintro c r rfl asks
  exact Computer.returnsText running (run.serves running) args plain asks

/-- A process that a command started with a name and a text gets that text for as long as it lives,
whatever happened since: with a buffer of any size, and in its own memory. Without a space before its
end a command gives no text. -/
theorem arguments_intact (run : Run (.new files arena storage) h k) (since : Since h pid m later)
    (asked : m.action = .execute line) (current : k.currentPid? = some pid) :
    (∀ name text, Command.Gives line name text → name ≠ Command.exitName →
      Command.parse line = ⟨name, text⟩ ∧ k.ReturnsText text ∧
        ∀ (c : Computer) r, c.kernel = k → c.AsksText r → c.ReturnsText text r) ∧
    (Command.Bare line → (Command.parse line).args = [] ∧ k.ReturnsText [] ∧
      ∀ (c : Computer) r, c.kernel = k → c.AsksText r → c.ReturnsText [] r) := by
  refine ⟨fun name text gives other => ⟨gives.parse_eq, ?_⟩, fun bare => ⟨bare.args_eq, ?_⟩⟩
  · refine run.returnsText_since since (asked ▸ gives.givesText other) (fun b inside => ?_) current
    rintro rfl
    cases gives.text 0 inside
  · refine run.returnsText_since since ⟨?_, fun _ => rfl⟩ (by simp) current
    rw [asked, Action.givenArgs, bare.args_eq]

end Run

namespace Sample

/-- A shell is started with a text that starts with a space and has another one inside. A newline
ends it. -/
def text : List UInt8 := ascii " two words"

def line : List UInt8 := shellName ++ Command.space :: (text ++ ascii "\nrest")

theorem gives_line : Command.Gives line shellName text where
  parts := ⟨_, rfl, by decide +kernel⟩
  name := by decide +kernel
  text := by decide +kernel

theorem launches_of_gives {line text : List UInt8} (gives : Command.Gives line shellName text) :
    (Moment.mk (played [.start]).2 (.execute line) (some flow)).Launches 1 ∧
      (played [.execute line, .start]).2.roster = nested := by
  have begins : Action.Begins [.start] := ⟨by decide, trivial⟩
  have files := (run_played begins).fixed.1
  have room : (played [.start]).2.processes.free? = some 1 := by
    rw [Kernel.free?_eq_roster, roster_started]
    rfl
  have named : (Command.parse line).name = shellName := congrArg Command.name gives.parse_eq
  have other : (Command.parse line).name ≠ Command.exitName := named ▸ by decide
  have ready : (played [.start]).2.Startable (Command.parse line).name shell 1 :=
    named ▸ startable files room
  obtain ⟨transfer, after, _⟩ := Kernel.execute_launches other ready
  refine ⟨⟨_, transfer, rfl⟩, ?_⟩
  rw [roster_played, transfer, after, ← Kernel.scheduled_roster, roster_started]
  rfl

/-- The second of two shells opens a file, and then it asks for its arguments with a buffer of twelve
bytes. -/
theorem arguments_intact_nested :
    Run shellKernel (played [.openFile shellName, .execute line, .start]).1
        (played [.openFile shellName, .execute line, .start]).2 ∧
      (played [.openFile shellName, .execute line, .start]).2.currentPid? = some 1 ∧
      (played [.openFile shellName, .execute line, .start]).2.getArgsInto (List.replicate 12 0xFF) =
        (text ++ [0, 0], .ok 0) := by
  obtain ⟨launches, launched⟩ := launches_of_gives gives_line
  have before : Run shellKernel (played [.execute line, .start]).1 (played [.execute line, .start]).2 :=
    run_played ⟨by simp, ⟨by simp, trivial⟩⟩
  have run : Run shellKernel (played [.openFile shellName, .execute line, .start]).1
      (played [.openFile shellName, .execute line, .start]).2 :=
    run_played ⟨by simp, ⟨by simp, ⟨by simp, trivial⟩⟩⟩
  have roster : (played [.openFile shellName, .execute line, .start]).2.roster = nested := by
    have kept (k : Kernel) : (k.act (.openFile shellName)).1.roster.park
        (k.act (.openFile shellName)).2 (some flow) = k.roster := k.roster_openFile shellName
    rw [roster_played, kept, launched]
  have current : (played [.openFile shellName, .execute line, .start]).2.currentPid? = some 1 :=
    run.currentPid?_eq_owner.trans (seat_nested roster).2
  -- Opening a file leaves the process its terminal, so that it is still the one that was launched.
  have given : (played [.execute line, .start]).2.holdings 1 = some (.new text) :=
    before.holdings_latest.args_of_launches launches (gives_line.givesText (by decide))
  have keeps : (Moment.mk (played [.execute line, .start]).2 (.openFile shellName)
      (some flow)).Keeps 1 := by
    have bound : Held (played [.execute line, .start]).2.holdings 1 0 (.unfiled .terminalIn) :=
      ⟨_, given, (Holdings.Tabled.new text).input⟩
    refine (Moment.sameFile (m := ⟨_, .openFile shellName, some flow⟩) bound ?_).1
    rintro ⟨_, closes | ends⟩
    · cases closes
    · cases ends
  have since : Since (played [.openFile shellName, .execute line, .start]).1 1 _ [_] :=
    ⟨⟨_, rfl⟩, launches, fun e inside => List.mem_singleton.mp inside ▸ keeps⟩
  obtain ⟨_, gets, _⟩ :=
    (Run.arguments_intact run since rfl current).1 shellName text gives_line (by decide)
  refine ⟨run, current, ?_⟩
  rw [gets.copied (by decide)]
  rfl

end Sample

end TerminalKernel

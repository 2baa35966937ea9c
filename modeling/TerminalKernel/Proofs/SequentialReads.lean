import TerminalKernel.Proofs.FileContents
import TerminalKernel.Proofs.Holdings
import TerminalKernel.Proofs.Isolation

/-!
# Reading a file from its start to its end

A descriptor on a regular file is read in pieces, by calls that may lie far apart in a run. The
pieces that its reads delivered since it was opened are, one after another, the bytes that the file
begins with (`ReadUpTo`); every moment that does not give the descriptor up keeps this.
-/

namespace TerminalKernel

/-! ## What was received -/

/-- What a reader gets of a delivery. One that failed on the way gives it nothing. -/
def Delivery.received {ε : Type} (d : Delivery ε) : List UInt8 :=
  match d.failure with
  | none => d.bytes
  | some _ => []

namespace Moment

/-- The process opens the file with a name and gets the descriptor. -/
structure Opens (m : Moment) (pid : ProcessId) (name : List UInt8) (fd : Nat) : Prop where
  running : m.before.currentPid? = some pid
  action : m.action = .openFile name
  result : (m.before.openFile name).2 = .ok fd

/-- The process closes the descriptor or ends. -/
def GivesUp (m : Moment) (pid : ProcessId) (fd : Nat) : Prop :=
  m.before.currentPid? = some pid ∧ m.action.GivesUp fd

/-- The bytes that the process reads through the descriptor at the moment. -/
def received (m : Moment) (pid : ProcessId) (fd : Nat) : List UInt8 :=
  match m.action with
  | .read fd' room =>
    if m.before.currentPid? = some pid ∧ fd' = fd then (m.before.read fd room).2.received else []
  | _ => []

/-- What the process read through the descriptor over a part of a history. -/
def receivedIn (pid : ProcessId) (fd : Nat) : List Moment → List UInt8
  | [] => []
  | m :: earlier => receivedIn pid fd earlier ++ m.received pid fd

theorem received_of_read {m : Moment} {pid : ProcessId} {fd : Nat} {room : Option Nat}
    (action : m.action = .read fd room) (running : m.before.currentPid? = some pid) :
    m.received pid fd = (m.before.read fd room).2.received := by
  rw [received, action]
  exact if_pos ⟨running, rfl⟩

theorem received_of_unused {m : Moment} {pid : ProcessId} {fd : Nat}
    (unused : m.before.currentPid? = some pid → ¬ ∃ room, m.action = .read fd room) :
    m.received pid fd = [] := by
  unfold received
  split
  · rename_i fd' room reads
    rw [if_neg]
    rintro ⟨running, rfl⟩
    exact unused running ⟨room, reads⟩
  · rfl

end Moment

/-! ## Where a descriptor stands -/

/-- The descriptor is open on the file, and `bytes`, which the file begins with, are what was read
through it. -/
structure ReadUpTo (files : FileSystem) (held : ProcessId → Option Holdings) (pid : ProcessId)
    (fd inode : Nat) (bytes : List UInt8) : Prop where
  bound : Held held pid fd ⟨.regular, true, inode, bytes.length⟩
  contents : files.HoldsAt inode 0 bytes
  within : ∀ length, files.fileLength inode = .ok length → bytes.length ≤ length

namespace Kernel

variable {k : Kernel} {pid : ProcessId} {p : ProcessRecord TerminalId} {fd inode : Nat}
  {bytes : List UInt8}

theorem openFile_eq_ok {name : List UInt8} (opens : (k.openFile name).2 = .ok fd) :
    ∃ pid p e, k.current = .ok (pid, p) ∧ k.files.lookup name = .ok e ∧
      p.freeDescriptor? = some fd ∧ (k.openFile name).1.holdings =
        Function.update k.holdings pid (some (p.holdings.setDescriptor fd (.opened e))) := by
  rcases k.openFile_cases name with ⟨_, failed⟩ | ⟨pid, p, e, fd', running, found, free, opened⟩
  · rw [failed] at opens
    cases opens
  · rw [opened] at opens ⊢
    cases opens
    refine ⟨pid, p, e, running, found, free, ?_⟩
    dsimp only
    rw [holdings_congr (onlyDevices_openDevice _ _).processes, holdings_setDescriptor running]

theorem current_of_held {held : Holdings} (running : k.currentPid? = some pid)
    (here : k.holdings pid = some held) : ∃ p, k.current = .ok (pid, p) ∧ p.holdings = held := by
  obtain ⟨p, live, same⟩ := Option.map_eq_some_iff.mp here
  exact ⟨p, current_of_currentPid? running live, same⟩

theorem read_regular {d : Descriptor} (running : k.current = .ok (pid, p))
    (bound : p.descriptor? fd = some d) (regular : d.binding = .regular) (room : Nat) :
    k.read fd (some room) = k.readRegular pid fd d room := by
  simp only [read, currentDescriptor, running, bound, regular]

theorem readRegular_of_done {d : Descriptor} {room : Nat}
    (whole : k.files.read d.inode d.position room = .done bytes) :
    k.readRegular pid fd d room =
      (k.setDescriptor pid fd { d with position := d.position + bytes.length }, .done bytes) := by
  unfold readRegular
  rw [whole]
  rfl

end Kernel

open Kernel Moment

namespace ReadUpTo

variable {files : FileSystem} {held : ProcessId → Option Holdings} {pid : ProcessId}
  {fd inode : Nat} {bytes more : List UInt8} {k : Kernel}

/-- A read copies what follows on what was read. -/
theorem advance (upTo : ReadUpTo files held pid fd inode bytes) {room : Nat}
    (whole : (files.read inode bytes.length room).failure = none) {o : Holdings}
    (here : held pid = some o) :
    ReadUpTo files (Function.update held pid (some (o.setDescriptor fd
        ⟨.regular, true, inode, bytes.length + (files.read inode bytes.length room).bytes.length⟩)))
      pid fd inode (bytes ++ (files.read inode bytes.length room).bytes) := by
  obtain ⟨length, found, within, count, contents⟩ := FileSystem.read_spec whole
  obtain ⟨o', same, bound⟩ := upTo.bound
  rw [here, Option.some_inj] at same
  subst same
  refine ⟨⟨_, Function.update_self .., ?_⟩, ?_, fun length' found' => ?_⟩
  · rw [Holdings.descriptor?_setDescriptor_self _ (Holdings.lt_of_descriptor? bound),
      List.length_append]
    rfl
  · exact upTo.contents.append (by rwa [Nat.zero_add])
  · rw [found] at found'
    cases found'
    rw [List.length_append, count]
    omega

/-- What reading on through the descriptor does: it delivers all that the buffer has room for and
the file still has and leaves the rest of the buffer alone, or it fails and changes nothing. -/
def ReadsOn (files : FileSystem) (k : Kernel) (pid : ProcessId) (fd inode : Nat)
    (bytes buffer : List UInt8) : Kernel × List UInt8 × Except SyscallError Nat → Prop
  | (k', after, .ok count) => ∃ length piece, files.fileLength inode = .ok length ∧
      piece.length = count ∧ count = min buffer.length (length - bytes.length) ∧
      after = piece ++ buffer.drop count ∧ bytes.length + count < 2 ^ 32 ∧
      ReadUpTo files k'.holdings pid fd inode (bytes ++ piece)
  | (k', _, .error _) => k' = k

theorem readsOn (upTo : ReadUpTo k.files k.holdings pid fd inode bytes)
    (running : k.currentPid? = some pid) (buffer : List UInt8) :
    ReadsOn k.files k pid fd inode bytes buffer (k.readInto fd buffer) := by
  obtain ⟨o, here, bound⟩ := upTo.bound
  obtain ⟨p, current, rfl⟩ := current_of_held running here
  unfold readInto
  rw [read_regular current bound rfl]
  rcases k.readRegular_cases pid fd ⟨.regular, true, inode, bytes.length⟩ buffer.length with
    ⟨cause, failed⟩ | ⟨whole, done⟩
  · rw [failed]
    exact rfl
  · obtain ⟨length, found, within, count, -⟩ := FileSystem.read_spec whole
    have inWord := FileSystem.fileLength_lt found
    have further := upTo.advance whole here
    rw [← holdings_setDescriptor current] at further
    dsimp only at done within count
    rw [done]
    refine ⟨length, _, found, rfl, count, rfl, ?_, further⟩
    rw [Delivery.done, count]
    omega

theorem read (upTo : ReadUpTo k.files k.holdings pid fd inode bytes)
    (running : k.currentPid? = some pid) (room : Option Nat) :
    ReadUpTo k.files (k.read fd room).1.holdings pid fd inode
      (bytes ++ (k.read fd room).2.received) := by
  obtain ⟨o, here, bound⟩ := upTo.bound
  obtain ⟨p, current, rfl⟩ := current_of_held running here
  cases room with
  | none =>
    have refused : k.read fd none = (k, .fail .invalidArgument) := by
      have bound : p.descriptor? fd = _ := bound
      simp only [Kernel.read, currentDescriptor, current, bound]
    rw [refused]
    simpa only [Delivery.received, Delivery.fail, List.append_nil] using upTo
  | some room =>
    rw [read_regular current bound rfl]
    rcases k.readRegular_cases pid fd ⟨.regular, true, inode, bytes.length⟩ room with
      ⟨cause, failed⟩ | ⟨whole, done⟩
    · rw [failed]
      simpa only [Delivery.received, List.append_nil] using upTo
    · have further := upTo.advance whole here
      rw [← holdings_setDescriptor current] at further
      rw [done]
      exact further

/-- What a moment adds to what was read. -/
theorem act {m : Moment} (upTo : ReadUpTo m.before.files m.before.holdings pid fd inode bytes)
    (kept : ¬ m.GivesUp pid fd) :
    ReadUpTo m.before.files m.decided.holdings pid fd inode (bytes ++ m.received pid fd) := by
  by_cases reads : m.before.currentPid? = some pid ∧ ∃ room, m.action = .read fd room
  · obtain ⟨running, room, action⟩ := reads
    have after : m.decided = (m.before.read fd room).1 := by rw [decided, action]; rfl
    rw [received_of_read action running, after]
    exact upTo.read running room
  · have unused : m.before.currentPid? = some pid → ¬ m.action.Uses fd := by
      rintro running (given | read)
      · exact kept ⟨running, given⟩
      · exact reads ⟨running, read⟩
    rw [Moment.received_of_unused fun running read => reads ⟨running, read⟩, List.append_nil]
    exact ⟨(act_holdings m.before m.action).held upTo.bound unused, upTo.contents, upTo.within⟩

theorem of_opens {m : Moment} {name : List UInt8} (opens : m.Opens pid name fd) {e : DirectoryEntry}
    (found : m.before.files.lookup name = .ok e) (regular : e.fileType = .regular) :
    ReadUpTo m.before.files m.decided.holdings pid fd e.inode [] := by
  obtain ⟨q, p, e', current, found', free, after⟩ := openFile_eq_ok opens.result
  have same : some q = some pid := (current_eq_ok current).1.symm.trans opens.running
  rw [Option.some_inj] at same
  subst same
  rw [found] at found'
  cases found'
  have decided : m.decided.holdings = (m.before.openFile name).1.holdings := by
    rw [Moment.decided, opens.action]
    rfl
  refine ⟨?_, FileSystem.holdsAt_nil _ _ _, fun _ _ => Nat.zero_le _⟩
  rw [decided, after]
  refine ⟨_, Function.update_self .., ?_⟩
  rw [Holdings.descriptor?_setDescriptor_self _ (lt_of_freeDescriptor? free), Descriptor.opened, regular]
  rfl

end ReadUpTo

/-! ## Positions -/

/-- No descriptor on a file is positioned past the file's end. -/
def Holdings.Positioned (files : FileSystem) (o : Holdings) : Prop :=
  ∀ fd d, o.descriptor? fd = some d → d.binding = .regular →
    ∀ length, files.fileLength d.inode = .ok length → d.position ≤ length

namespace Holdings.Positioned

variable {files : FileSystem} {o : Holdings}

theorem new (files : FileSystem) (args : List UInt8) : (Holdings.new args).Positioned files := by
  intro fd d bound regular
  have none : ∀ fd : Fin maxOpenFiles, (ProcessRecord.newFiles[fd]).isOpen = true →
      (ProcessRecord.newFiles[fd]).binding ≠ .regular := by decide
  obtain ⟨place, isOpen⟩ := descriptor?_eq_some.mp bound
  obtain ⟨valid, rfl⟩ := Vector.getElem?_eq_some_iff.mp place
  exact absurd regular (none ⟨fd, valid⟩ isOpen)

theorem setDescriptor (all : o.Positioned files) {fd : Nat} {d : Descriptor}
    (positioned : d.isOpen = true → d.binding = .regular →
      ∀ length, files.fileLength d.inode = .ok length → d.position ≤ length) :
    (o.setDescriptor fd d).Positioned files := by
  intro fd' d' bound
  by_cases same : fd = fd'
  · subst same
    have valid := lt_of_descriptor? bound
    rw [descriptor?_setDescriptor_self _ valid, Option.filter_eq_some_iff, Option.some_inj] at bound
    obtain ⟨rfl, isOpen⟩ := bound
    exact positioned isOpen
  · rw [descriptor?_setDescriptor_of_ne _ same] at bound
    exact all fd' d' bound

theorem rebinds {p : ProcessRecord TerminalId} {a : Action} {fd : Nat} {d : Descriptor}
    (all : p.holdings.Positioned files) (rebinds : Rebinds files p a fd d) :
    (p.holdings.setDescriptor fd d).Positioned files := by
  refine all.setDescriptor ?_
  cases rebinds with
  | opened _ _ => exact fun _ _ _ _ => Nat.zero_le _
  | closed _ _ _ => exact fun isOpen => by cases isOpen
  | listed _ directory _ => exact fun _ regular => by rw [directory] at regular; cases regular
  | @advanced fd room d bytes bound regular whole =>
    intro _ _ length found
    have within := all fd d bound regular length found
    have outcome : (files.read d.inode d.position room).failure = none := by rw [whole]; rfl
    obtain ⟨length', found', _, count, -⟩ := FileSystem.read_spec outcome
    rw [found] at found'
    cases found'
    rw [whole] at count
    simp only [Delivery.done] at count
    dsimp only
    omega

end Holdings.Positioned

namespace Run

variable {files : FileSystem} {arena : Arena} {storage : Kernel.Storage} {h : List Moment}
  {k : Kernel}

theorem positioned (run : Run (.new files arena storage) h k) {pid : ProcessId} {fd : Nat}
    {d : Descriptor} (held : Held k.holdings pid fd d) (regular : d.binding = .regular) :
    ∀ length, files.fileLength d.inode = .ok length → d.position ≤ length := by
  obtain ⟨o, here, bound⟩ := held
  exact run.forall_held (P := Holdings.Positioned files) (Holdings.Positioned.new files)
    (fun _ _ _ _ all rebinds => all.rebinds rebinds) pid o here fd d bound regular

/-- What the reads of a descriptor delivered since it was opened on a file. -/
theorem readUpTo {later earlier : List Moment} {m : Moment}
    (run : Run (.new files arena storage) (later ++ m :: earlier) k) {pid : ProcessId}
    {name : List UInt8} {fd : Nat} (opens : m.Opens pid name fd) {e : DirectoryEntry}
    (found : files.lookup name = .ok e) (regular : e.fileType = .regular)
    (kept : ∀ m' ∈ later, ¬ m'.GivesUp pid fd) :
    ReadUpTo files k.holdings pid fd e.inode (receivedIn pid fd later) := by
  induction later generalizing k with
  | nil =>
    have step := ReadUpTo.of_opens opens (run.latest.1.fixed.1 ▸ found) regular
    rw [run.latest.1.fixed.1, ← run.holdings_eq] at step
    exact step
  | cons m' later ih =>
    obtain ⟨keeps, kept⟩ := List.forall_mem_cons.mp kept
    have before := ih run.latest.1 kept
    rw [← run.latest.1.fixed.1] at before
    have step := before.act keeps
    rw [run.latest.1.fixed.1, ← run.holdings_eq] at step
    exact step

/-- In a run, the pieces that a process reads from a file are what the file begins with: each read
that succeeds delivers what follows on the pieces before it, as much as the buffer has room for and
the file still has, and a read that fails does not count. Meanwhile the descriptor may be used for
nothing else, and other descriptors, processes and terminals for anything. No descriptor is ever
positioned past the end of its file. -/
theorem reads_sequential (run : Run (.new files arena storage) h k) :
    (∀ later m earlier pid name fd e, h = later ++ m :: earlier → m.Opens pid name fd →
      files.lookup name = .ok e → e.fileType = .regular →
      (∀ m' ∈ later, ¬ m'.GivesUp pid fd) →
      ReadUpTo files k.holdings pid fd e.inode (receivedIn pid fd later) ∧
      (k.currentPid? = some pid → ∀ buffer,
        ReadUpTo.ReadsOn files k pid fd e.inode (receivedIn pid fd later) buffer
          (k.readInto fd buffer))) ∧
    ∀ pid fd d, Held k.holdings pid fd d → d.binding = .regular →
      (∀ length, files.fileLength d.inode = .ok length → d.position ≤ length) ∧
      ∀ room, (files.read d.inode d.position room).failure ≠ some .offsetPastEnd ∧
        ((files.read d.inode d.position room).failure = none →
          d.position + (files.read d.inode d.position room).bytes.length < 2 ^ 32) := by
  constructor
  · rintro later m earlier pid name fd e rfl opens found regular kept
    have upTo := run.readUpTo opens found regular kept
    refine ⟨upTo, fun running buffer => ?_⟩
    have same := run.fixed.1
    rw [← same] at upTo ⊢
    exact upTo.readsOn running buffer
  · intro pid fd d held regular
    have within := run.positioned held regular
    refine ⟨within, fun room => ⟨FileSystem.failure_read_ne within room, fun whole => ?_⟩⟩
    obtain ⟨length, found, _, count, -⟩ := FileSystem.read_spec whole
    have inWord := FileSystem.fileLength_lt found
    omega

end Run

/-! ## A file that is read -/

namespace Sample

theorem holdings_played (a : Action) (earlier : List Action) :
    (played (a :: earlier)).2.holdings = ((played earlier).2.act a).1.holdings :=
  Moment.holdings_after ⟨(played earlier).2, a, some flow⟩

theorem holdings_started : (played [.start]).2.holdings 0 = some (.new []) := by
  have ready : (played []).2.Startable shellName shell 0 := startable rfl rfl
  have step := (played []).2.act_holdings .start
  rw [(Kernel.start_launches ready).1, ← holdings_played] at step
  generalize (played [.start]).2.holdings = held at step ⊢
  cases step with
  | keep quiet => exact absurd ⟨_, rfl, rfl⟩ (quiet 0)
  | finish _ _ quiet => exact absurd ⟨_, rfl, rfl⟩ (quiet 0)
  | launch _ | replace _ _ _ => exact Function.update_self ..

theorem current_started {h : List Moment} {k : Kernel} (run : Run shellKernel h k)
    (same : k.roster = started) : k.currentPid? = some 0 :=
  run.currentPid?_eq_owner.trans (owner_started same).2

theorem openFile_shell {k : Kernel} (files : k.files = shellFiles) (current : k.currentPid? = some 0)
    (fresh : k.holdings 0 = some (.new [])) : (k.openFile shellName).2 = .ok 2 := by
  obtain ⟨p, running, holds⟩ := current_of_held current fresh
  have free : p.freeDescriptor? = some 2 := by
    have same : p.files = ProcessRecord.newFiles := congrArg Holdings.files holds
    rw [ProcessRecord.freeDescriptor?, same]
    decide
  simp only [openFile, running, files, lookup_shell, free, openBinding_opened]

theorem opens_shell : Moment.Opens ⟨(played [.start]).2, .openFile shellName, some flow⟩ 0
    shellName 2 where
  running := current_started run_started roster_started
  action := rfl
  result := openFile_shell run_started.fixed.1 (current_started run_started roster_started)
    holdings_started

theorem run_opened : Run shellKernel (played [.openFile shellName, .start]).1
    (played [.openFile shellName, .start]).2 :=
  run_played ⟨by simp, ⟨by simp, trivial⟩⟩

theorem current_opened : (played [.openFile shellName, .start]).2.currentPid? = some 0 := by
  have kept (k : Kernel) : (k.act (.openFile shellName)).1.roster.park
      (k.act (.openFile shellName)).2 (some flow) = k.roster := k.roster_openFile shellName
  refine current_started run_opened ?_
  rw [roster_played, kept, roster_started]

theorem run_read : Run shellKernel
    (played [.read 2 (some programHeaderSize), .openFile shellName, .start]).1
    (played [.read 2 (some programHeaderSize), .openFile shellName, .start]).2 :=
  run_played ⟨by simp, ⟨by simp, ⟨by simp, trivial⟩⟩⟩

theorem readUpTo_opened :
    ReadUpTo shellFiles (played [.openFile shellName, .start]).2.holdings 0 2 0 [] := by
  have run : Run shellKernel ([] ++ _ :: _) (played [.openFile shellName, .start]).2 := run_opened
  exact run.readUpTo opens_shell lookup_shell rfl fun _ inside => absurd inside List.not_mem_nil

theorem received_shell {k : Kernel} (files : k.files = shellFiles) (current : k.currentPid? = some 0)
    (upTo : ReadUpTo shellFiles k.holdings 0 2 0 []) :
    Moment.received ⟨k, .read 2 (some programHeaderSize), some flow⟩ 0 2 = shellProgram := by
  obtain ⟨o, here, bound⟩ := upTo.bound
  obtain ⟨p, running, rfl⟩ := current_of_held current here
  have read := received_of_read (m := ⟨k, .read 2 (some programHeaderSize), some flow⟩) rfl current
  have whole : k.files.read 0 0 programHeaderSize = .done shellProgram := files ▸ read_shell
  rw [read, read_regular running bound rfl, readRegular_of_done whole]
  rfl

end Sample

/-- A shell opens the file of its own program and reads it in one piece. -/
theorem reads_sequential_shell :
    Run Sample.shellKernel
        (Sample.played [.read 2 (some programHeaderSize), .openFile shellName, .start]).1
        (Sample.played [.read 2 (some programHeaderSize), .openFile shellName, .start]).2 ∧
      ReadUpTo Sample.shellFiles
        (Sample.played [.read 2 (some programHeaderSize), .openFile shellName, .start]).2.holdings
        0 2 0 Sample.shellProgram := by
  refine ⟨Sample.run_read, ?_⟩
  have kept : ∀ m' ∈ [Moment.mk (Sample.played [.openFile shellName, .start]).2
      (.read 2 (some programHeaderSize)) (some Sample.flow)], ¬ m'.GivesUp 0 2 := by
    intro m' inside
    rw [List.mem_singleton] at inside
    rintro ⟨_, given⟩
    rw [inside] at given
    rcases given with closes | ends
    · cases closes
    · cases ends
  have upTo := ((Run.reads_sequential Sample.run_read).1 _ _ _ 0 shellName 2 _ rfl
    Sample.opens_shell Sample.lookup_shell rfl kept).1
  rw [receivedIn, receivedIn, Sample.received_shell Sample.run_opened.fixed.1 Sample.current_opened
    Sample.readUpTo_opened, List.nil_append] at upTo
  exact upTo

end TerminalKernel

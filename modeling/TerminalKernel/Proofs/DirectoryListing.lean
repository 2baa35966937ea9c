import TerminalKernel.Proofs.DescriptorCalls
import TerminalKernel.Proofs.ImageRoundTrip
import TerminalKernel.Proofs.LaunchConditions

/-!
# Listing a directory

A descriptor on the directory names one entry with each read. The names come in the order of the
entries, and each of them leads back to its entry when it is looked up. An entry of a type that there
is not stops both: the reads get no further than to it, and a search that comes to it fails.
-/

namespace TerminalKernel

namespace FileSystem

variable {fs : FileSystem} {name : List UInt8} {i j n : Nat}

/-! ## What is stored of an entry -/

/-- The name in the field of an entry, without the zeros that pad it. -/
def storedName (fs : FileSystem) (index : Nat) : List UInt8 :=
  Bytes.untilNul (Bytes.slice fs.image (directoryOffset + index * entrySize) fileNameLength)

/-- The type of an entry, unless the number that is stored stands for none. -/
def storedType? (fs : FileSystem) (index : Nat) : Option FileType :=
  FileType.ofNat? (Bytes.wordAt fs.image (directoryOffset + index * entrySize + fileNameLength))

def storedInode (fs : FileSystem) (index : Nat) : Nat :=
  Bytes.wordAt fs.image (directoryOffset + index * entrySize + fileNameLength + 4)

/-- An entry of the directory has no valid type. -/
structure Untyped (fs : FileSystem) (index : Nat) : Prop where
  inside : index < fs.entryCount
  untyped : fs.storedType? index = none

/-- All entries have valid types, and names by which they can be told apart. -/
structure Orderly (fs : FileSystem) : Prop where
  typed : ∀ index, ¬ fs.Untyped index
  named : ∀ index, index < fs.entryCount → fs.storedName index ≠ []
  distinct : ∀ first second, first < fs.entryCount → second < fs.entryCount →
    fs.storedName first = fs.storedName second → first = second

theorem entry_eq (inside : i < fs.entryCount) :
    fs.entry i = match fs.storedType? i with
      | some type => .ok ⟨fs.storedName i, type, fs.storedInode i⟩
      | none => .error .corruptImage := by
  rw [entry, if_pos inside]
  rfl

theorem Untyped.entry (untyped : fs.Untyped i) : fs.entry i = .error .corruptImage := by
  rw [entry_eq untyped.inside, untyped.untyped]

theorem exists_entry_of_typed (inside : i < fs.entryCount) (typed : ¬ fs.Untyped i) :
    ∃ e, fs.entry i = .ok e ∧ e.name = fs.storedName i := by
  rw [entry_eq inside]
  cases type : fs.storedType? i with
  | none => exact absurd ⟨inside, type⟩ typed
  | some type' => exact ⟨_, rfl, rfl⟩

theorem storedName_of_entry {e : DirectoryEntry} (inside : i < fs.entryCount)
    (read : fs.entry i = .ok e) : ¬ fs.Untyped i ∧ fs.storedName i = e.name := by
  have typed : ¬ fs.Untyped i := by
    intro untyped
    rw [untyped.entry] at read
    cases read
  obtain ⟨e', read', same⟩ := exists_entry_of_typed inside typed
  cases read.symm.trans read'
  exact ⟨typed, same.symm⟩

theorem length_storedName_le (fs : FileSystem) (i : Nat) :
    (fs.storedName i).length ≤ fileNameLength :=
  Nat.le_trans (Bytes.length_untilNul_le _) (Bytes.length_slice_le _ _ _)

/-! ## Listing -/

/-- How many entries come before the first that has no valid type. -/
def readable (fs : FileSystem) : Nat :=
  (List.range fs.entryCount).findIdx fun index => (fs.storedType? index).isNone

/-- What the read of a directory delivers after `n` others: the name of the next entry, nothing once
all entries were named, or an error at an entry that cannot be read. -/
def listing (fs : FileSystem) (n : Nat) : Delivery SyscallError :=
  if n < fs.readable then .done (fs.storedName n)
  else if fs.readable < fs.entryCount then .fail FileError.corruptImage.toSyscall
  else .done []

theorem readable_le (fs : FileSystem) : fs.readable ≤ fs.entryCount :=
  List.findIdx_le_length.trans_eq List.length_range

theorem not_untyped_of_lt (below : i < fs.readable) : ¬ fs.Untyped i := by
  rintro ⟨inside, untyped⟩
  have typed := List.not_of_lt_findIdx below
  rw [List.getElem_range, untyped] at typed
  cases typed

theorem untyped_readable (inside : fs.readable < fs.entryCount) : fs.Untyped fs.readable := by
  have listed : fs.readable < (List.range fs.entryCount).length := by rwa [List.length_range]
  have untyped : (fs.storedType? (List.range fs.entryCount)[fs.readable]).isNone = true :=
    List.findIdx_getElem (p := fun index => (fs.storedType? index).isNone) (w := listed)
  rw [List.getElem_range, Option.isNone_iff_eq_none] at untyped
  exact ⟨inside, untyped⟩

theorem readable_of_orderly (orderly : fs.Orderly) : fs.readable = fs.entryCount := by
  rcases Nat.lt_or_eq_of_le fs.readable_le with inside | all
  · exact absurd (untyped_readable inside) (orderly.typed _)
  · exact all

/-- The entry at which listing stops is the first without a valid type. -/
theorem readable_eq (untyped : fs.Untyped i) (first : ∀ j, j < i → ¬ fs.Untyped j) :
    fs.readable = i := by
  rcases Nat.lt_trichotomy fs.readable i with below | same | above
  · exact absurd (untyped_readable (Nat.lt_trans below untyped.inside)) (first _ below)
  · exact same
  · exact absurd untyped (not_untyped_of_lt above)

theorem listing_of_orderly (orderly : fs.Orderly) (n : Nat) :
    fs.listing n = .done (if n < fs.entryCount then fs.storedName n else []) := by
  rw [listing, readable_of_orderly orderly, if_neg (Nat.lt_irrefl _), apply_ite Delivery.done]

theorem listing_of_untyped (untyped : fs.Untyped i) (first : ∀ j, j < i → ¬ fs.Untyped j)
    (n : Nat) : fs.listing n =
      if n < i then .done (fs.storedName n) else .fail FileError.corruptImage.toSyscall := by
  rw [listing, readable_eq untyped first, if_pos untyped.inside]

/-! ## Looking up -/

/-- The entry is the first in whose field the name stands. -/
structure FirstNamed (fs : FileSystem) (name : List UInt8) (index : Nat) : Prop where
  inside : index < fs.entryCount
  named : fs.storedName index = name
  first : ∀ earlier, earlier < index → fs.storedName earlier ≠ name

/-- What looking up a name comes to when some entry has no valid type: the first entry with the name,
if it comes before all of those, and an error otherwise. -/
def LooksUp (fs : FileSystem) (name : List UInt8) : Prop :=
  (∃ i e, fs.FirstNamed name i ∧ (∀ bad, fs.Untyped bad → i < bad) ∧ fs.entry i = .ok e ∧
    fs.lookup name = .ok e) ∨
  (∀ i, fs.FirstNamed name i → ∃ bad, fs.Untyped bad ∧ bad ≤ i) ∧
    fs.lookup name = .error .corruptImage

theorem lookup_eq_search (named : name ≠ []) (short : name.length ≤ fileNameLength) :
    fs.lookup name = fs.search name (List.range' 0 fs.entryCount) := by
  have searched : ¬(name.isEmpty = true ∨ fileNameLength < name.length) :=
    not_or.mpr ⟨fun empty => named (List.isEmpty_iff.mp empty), Nat.not_lt.mpr short⟩
  rw [lookup, if_neg searched, List.range_eq_range']

theorem Passes.typed (passes : fs.Passes name i) : ¬ fs.Untyped i := fun untyped =>
  passes.readable untyped.entry

theorem Passes.storedName_ne (passes : fs.Passes name i) (inside : i < fs.entryCount) :
    fs.storedName i ≠ name := by
  obtain ⟨e, read, same⟩ := exists_entry_of_typed inside passes.typed
  exact same ▸ passes.ne read

/-- A search passes all entries, or it ends at the first without a type or with the name. -/
theorem lookup_outcome (named : name ≠ []) (short : name.length ≤ fileNameLength) :
    (∀ j, j < fs.entryCount → fs.Passes name j) ∨
    (∃ i e, fs.FirstNamed name i ∧ (∀ j, j ≤ i → ¬ fs.Untyped j) ∧ fs.entry i = .ok e ∧
      fs.lookup name = .ok e) ∨
    ∃ bad, fs.Untyped bad ∧ (∀ j, j < bad → fs.storedName j ≠ name) ∧
      fs.lookup name = .error .corruptImage := by
  rw [lookup_eq_search named short]
  -- A search ends at the first entry that it does not pass: one with the name, or without a type.
  rcases fs.search_range' name 0 fs.entryCount with ⟨all, _⟩ | ⟨i, _, inside, stops, passed, result⟩
  · exact .inl fun j inside => all j (Nat.zero_le j) (by rwa [Nat.zero_add])
  · rw [Nat.zero_add] at inside
    have before (j : Nat) (below : j < i) : fs.Passes name j := passed j (Nat.zero_le j) below
    have others (j : Nat) (below : j < i) : fs.storedName j ≠ name :=
      (before j below).storedName_ne (Nat.lt_trans below inside)
    by_cases untyped : fs.Untyped i
    · exact .inr (.inr ⟨i, untyped, others, result.trans untyped.entry⟩)
    · obtain ⟨e, read, same⟩ := exists_entry_of_typed inside untyped
      have found : e.name = name := by
        by_contra different
        exact stops ⟨e, read, different⟩
      refine .inr (.inl ⟨i, e, ⟨inside, same.symm.trans found, others⟩, fun j upTo => ?_, read,
        result.trans read⟩)
      rcases Nat.lt_or_eq_of_le upTo with below | rfl
      · exact (before j below).typed
      · exact untyped

theorem looksUp (untyped : fs.Untyped i) (named : name ≠ []) (short : name.length ≤ fileNameLength) :
    fs.LooksUp name := by
  rcases fs.lookup_outcome named short with
    all | ⟨i, e, first, typed, read, found⟩ | ⟨bad, here, others, failed⟩
  · exact absurd untyped (all i untyped.inside).typed
  · refine .inl ⟨i, e, first, fun bad untyped => ?_, read, found⟩
    by_contra before
    exact typed bad (Nat.not_lt.mp before) untyped
  · refine .inr ⟨fun i first => ⟨bad, here, ?_⟩, failed⟩
    by_contra before
    exact others i (Nat.not_le.mp before) first.named

/-- Each name leads to the entry that it was listed for. -/
theorem lookup_storedName (orderly : fs.Orderly) (inside : n < fs.entryCount) :
    ∃ e, fs.entry n = .ok e ∧ e.name = fs.storedName n ∧ fs.lookup (fs.storedName n) = .ok e := by
  obtain ⟨e, read, same⟩ := exists_entry_of_typed inside (orderly.typed n)
  refine ⟨e, read, same, ?_⟩
  rcases fs.lookup_outcome (orderly.named n inside) (fs.length_storedName_le n) with
    all | ⟨i, e', first, _, read', found⟩ | ⟨bad, untyped, _⟩
  · exact absurd same ((all n inside).ne read)
  · obtain rfl := orderly.distinct i n first.inside inside first.named
    cases read.symm.trans read'
    exact found
  · exact absurd untyped (orderly.typed bad)

end FileSystem

/-! ## What is read through a descriptor -/

namespace Moment

variable {m : Moment} {pid : ProcessId} {fd : Nat}

/-- What the process gets at the moment by reading the descriptor, if it does. -/
def deliveries (m : Moment) (pid : ProcessId) (fd : Nat) : List (Delivery SyscallError) :=
  match m.action with
  | .read fd' room =>
    if m.before.currentPid? = some pid ∧ fd' = fd then [(m.before.read fd room).2] else []
  | _ => []

/-- What it got over a part of a history, in the order of its reads. -/
def deliveriesIn (pid : ProcessId) (fd : Nat) : List Moment → List (Delivery SyscallError)
  | [] => []
  | m :: earlier => deliveriesIn pid fd earlier ++ m.deliveries pid fd

/-- The process does not use the descriptor, or it reads into a buffer with room for any name. -/
def ReadsNames (m : Moment) (pid : ProcessId) (fd : Nat) : Prop :=
  m.before.currentPid? = some pid → m.action.Uses fd →
    ∃ room, m.action = .read fd (some room) ∧ fileNameLength ≤ room

theorem deliveries_of_read {room : Option Nat} (action : m.action = .read fd room)
    (running : m.before.currentPid? = some pid) :
    m.deliveries pid fd = [(m.before.read fd room).2] := by
  rw [deliveries, action]
  exact if_pos ⟨running, rfl⟩

theorem deliveries_of_unused (unused : m.before.currentPid? = some pid → ¬ m.action.Uses fd) :
    m.deliveries pid fd = [] := by
  unfold deliveries
  split
  · rename_i fd' room reads
    rw [if_neg]
    rintro ⟨running, rfl⟩
    exact unused running (.inr ⟨room, reads⟩)
  · rfl

end Moment

/-! ## Where a directory descriptor stands -/

/-- The descriptor is open on the directory, and it was read `n` times. It does not get past the first
entry that has no valid type. -/
def ListedUpTo (files : FileSystem) (held : ProcessId → Option Holdings) (pid : ProcessId)
    (fd inode n : Nat) : Prop :=
  Held held pid fd ⟨.directory, true, inode, min n files.readable⟩

namespace Kernel

variable {k : Kernel} {pid : ProcessId} {p : ProcessRecord TerminalId} {fd inode n : Nat}

/-- A read comes to a delivery: its bytes lie at the start of the buffer and what is behind them is
untouched. If it fails, the descriptor stays where it is. -/
structure ReadsAs (k : Kernel) (fd : Nat) (buffer : List UInt8) (delivery : Delivery SyscallError) :
    Prop where
  result : (k.readInto fd buffer).2 = (Bytes.fill buffer delivery.bytes, delivery.count)
  stays : delivery.failure ≠ none → (k.readInto fd buffer).1 = k

theorem read_directory {d : Descriptor} (running : k.current = .ok (pid, p))
    (bound : p.descriptor? fd = some d) (directory : d.binding = .directory) (room : Nat) :
    k.read fd (some room) = k.readDirectory pid fd d room := by
  simp only [read, currentDescriptor, running, bound, directory]

theorem readDirectory_of_lt {room : Nat} (large : fileNameLength ≤ room)
    (below : n < k.files.readable) : k.readDirectory pid fd ⟨.directory, true, inode, n⟩ room =
      (k.setDescriptor pid fd ⟨.directory, true, inode, n + 1⟩, k.files.listing n) := by
  have inside : n < k.files.entryCount := Nat.lt_of_lt_of_le below k.files.readable_le
  obtain ⟨e, read, same⟩ :=
    FileSystem.exists_entry_of_typed inside (FileSystem.not_untyped_of_lt below)
  have whole : e.name.take room = k.files.storedName n := by
    rw [same]
    exact List.take_of_length_le (Nat.le_trans (k.files.length_storedName_le n) large)
  simp only [readDirectory, if_neg (Nat.not_le.mpr inside), read, whole, FileSystem.listing,
    if_pos below]

theorem readDirectory_of_le (room : Nat) (above : k.files.readable ≤ n) :
    k.readDirectory pid fd ⟨.directory, true, inode, k.files.readable⟩ room =
      (k, k.files.listing n) := by
  rw [readDirectory, FileSystem.listing, if_neg (Nat.not_lt.mpr above)]
  by_cases inside : k.files.readable < k.files.entryCount
  · simp only [if_neg (Nat.not_le.mpr inside), (FileSystem.untyped_readable inside).entry,
      if_pos inside]
  · simp only [if_pos (Nat.not_lt.mp inside), if_neg inside]

end Kernel

open Kernel Moment

namespace ListedUpTo

variable {k : Kernel} {pid : ProcessId} {fd inode n : Nat}

/-- One more read: what it delivers, where the descriptor stands after it, and that nothing changes
where no name is left to read. -/
theorem read (upTo : ListedUpTo k.files k.holdings pid fd inode n)
    (running : k.currentPid? = some pid) {room : Nat} (large : fileNameLength ≤ room) :
    (k.read fd (some room)).2 = k.files.listing n ∧
      ListedUpTo k.files (k.read fd (some room)).1.holdings pid fd inode (n + 1) ∧
      (k.files.readable ≤ n → (k.read fd (some room)).1 = k) := by
  obtain ⟨o, here, bound⟩ := upTo
  obtain ⟨p, current, rfl⟩ := current_of_held running here
  rw [read_directory current bound rfl]
  rcases Nat.lt_or_ge n k.files.readable with below | above
  · rw [Nat.min_eq_left (Nat.le_of_lt below), readDirectory_of_lt large below]
    refine ⟨rfl, ?_, fun above => absurd below (Nat.not_lt.mpr above)⟩
    rw [ListedUpTo, Nat.min_eq_left below, holdings_setDescriptor current]
    exact .of_setDescriptor (Holdings.lt_of_descriptor? bound) rfl
  · rw [Nat.min_eq_right above] at bound ⊢
    rw [readDirectory_of_le room above]
    refine ⟨rfl, ?_, fun _ => rfl⟩
    rw [ListedUpTo, Nat.min_eq_right (Nat.le_succ_of_le above)]
    exact ⟨_, here, bound⟩

theorem readsAs (upTo : ListedUpTo k.files k.holdings pid fd inode n)
    (running : k.currentPid? = some pid) {buffer : List UInt8}
    (large : fileNameLength ≤ buffer.length) : k.ReadsAs fd buffer (k.files.listing n) := by
  obtain ⟨delivered, _, stays⟩ := upTo.read running large
  refine ⟨?_, fun failed => stays ?_⟩
  · simp only [readInto, delivered]
  · by_contra below
    rw [FileSystem.listing, if_pos (Nat.not_le.mp below)] at failed
    exact failed rfl

/-- A moment reads the next name, or it leaves the descriptor where it is. -/
theorem act {m : Moment} (upTo : ListedUpTo m.before.files m.before.holdings pid fd inode n)
    (reads : m.ReadsNames pid fd) :
    (m.deliveries pid fd = [m.before.files.listing n] ∧
      ListedUpTo m.before.files m.decided.holdings pid fd inode (n + 1)) ∨
    m.deliveries pid fd = [] ∧
      ListedUpTo m.before.files m.decided.holdings pid fd inode n := by
  by_cases uses : m.before.currentPid? = some pid ∧ m.action.Uses fd
  · obtain ⟨running, uses⟩ := uses
    obtain ⟨room, action, large⟩ := reads running uses
    have after : m.decided = (m.before.read fd (some room)).1 := by
      rw [decided, action]
      rfl
    obtain ⟨delivered, further, _⟩ := upTo.read running large
    rw [deliveries_of_read action running, after, delivered]
    exact .inl ⟨rfl, further⟩
  · have unused : m.before.currentPid? = some pid → ¬ m.action.Uses fd := fun running use =>
      uses ⟨running, use⟩
    exact .inr ⟨deliveries_of_unused unused, (act_holdings m.before m.action).held upTo unused⟩

theorem of_opens {m : Moment} {name : List UInt8} (opens : m.Opens pid name fd)
    {e : DirectoryEntry} (found : m.before.files.lookup name = .ok e)
    (directory : e.fileType = .directory) :
    ListedUpTo m.before.files m.after.holdings pid fd e.inode 0 := by
  obtain ⟨p, e', _, found', lowest, after⟩ := opens.bound
  cases found.symm.trans found'
  rw [ListedUpTo, Nat.zero_min, after, directory]
  exact .of_setDescriptor lowest.valid rfl

end ListedUpTo

namespace Run

variable {files : FileSystem} {arena : Arena} {storage : Kernel.Storage} {h : List Moment}
  {k : Kernel}

/-- What the reads of a descriptor delivered since it was opened on the directory. -/
theorem listedUpTo {later earlier : List Moment} {m : Moment}
    (run : Run (.new files arena storage) (later ++ m :: earlier) k) {pid : ProcessId}
    {name : List UInt8} {fd : Nat} (opens : m.Opens pid name fd) {e : DirectoryEntry}
    (found : files.lookup name = .ok e) (directory : e.fileType = .directory)
    (reads : ∀ m' ∈ later, m'.ReadsNames pid fd) :
    ∃ n, deliveriesIn pid fd later = (List.range n).map files.listing ∧
      ListedUpTo files k.holdings pid fd e.inode n := by
  -- By induction on what happened since the opening; `ListedUpTo.act` is the step.
  induction later generalizing k with
  | nil =>
    have step := ListedUpTo.of_opens opens (run.latest.1.fixed.1 ▸ found) directory
    rw [run.latest.1.fixed.1, m.holdings_after, ← run.holdings_eq] at step
    exact ⟨0, rfl, step⟩
  | cons m' later ih =>
    obtain ⟨last, reads⟩ := List.forall_mem_cons.mp reads
    obtain ⟨n, delivered, before⟩ := ih run.latest.1 reads
    rw [← run.latest.1.fixed.1] at before
    rw [deliveriesIn, delivered]
    rcases before.act last with ⟨reads, after⟩ | ⟨unused, after⟩
    · rw [run.latest.1.fixed.1, ← run.holdings_eq] at after
      refine ⟨n + 1, ?_, after⟩
      rw [reads, run.latest.1.fixed.1, List.range_succ, List.map_append]
      rfl
    · rw [run.latest.1.fixed.1, ← run.holdings_eq] at after
      refine ⟨n, ?_, after⟩
      rw [unused, List.append_nil]

/-- In a run, the reads of a descriptor on the directory, in buffers with room for any name, deliver
what `FileSystem.listing` says, one after another; meanwhile everything else may happen. If the
directory is orderly, these are the names of its entries in their order, each once, and then nothing,
and looking up a name leads to the entry that it was listed for. An entry that has no valid type stops
them with an error, and it stops the search for every name that does not stand before it. -/
theorem directory_listed (run : Run (.new files arena storage) h k) :
    (∀ later m earlier pid name fd e, h = later ++ m :: earlier → m.Opens pid name fd →
      files.lookup name = .ok e → e.fileType = .directory →
      (∀ m' ∈ later, m'.ReadsNames pid fd) →
      ∃ n, deliveriesIn pid fd later = (List.range n).map files.listing ∧
        (k.currentPid? = some pid → ∀ buffer, fileNameLength ≤ buffer.length →
          k.ReadsAs fd buffer (files.listing n))) ∧
    (files.Orderly →
      (∀ n, files.listing n = .done (if n < files.entryCount then files.storedName n else [])) ∧
      ∀ n, n < files.entryCount → ∃ e, files.entry n = .ok e ∧ e.name = files.storedName n ∧
        files.lookup (files.storedName n) = .ok e) ∧
    ∀ bad, files.Untyped bad → (∀ j, j < bad → ¬ files.Untyped j) →
      (∀ n, files.listing n =
        if n < bad then .done (files.storedName n) else .fail FileError.corruptImage.toSyscall) ∧
      ∀ name, name ≠ [] → name.length ≤ fileNameLength → files.LooksUp name := by
  refine ⟨?_, fun orderly => ⟨FileSystem.listing_of_orderly orderly,
    fun _ => FileSystem.lookup_storedName orderly⟩, fun bad untyped first =>
    ⟨FileSystem.listing_of_untyped untyped first, fun _ => FileSystem.looksUp untyped⟩⟩
  rintro later m earlier pid name fd e rfl opens found directory reads
  obtain ⟨n, delivered, upTo⟩ := run.listedUpTo opens found directory reads
  refine ⟨n, delivered, fun running buffer large => ?_⟩
  have same := run.fixed.1
  rw [← same] at upTo ⊢
  exact upTo.readsAs running large

end Run

/-! ## Directories to list -/

namespace Sample

open FileSystem PlannedEntry

/-- The directory itself and a shell. -/
def twoEntries : List PlannedEntry := [.directory [0x2E], .file shellName shellProgram]

theorem wellFormed_two : WellFormed twoEntries := by
  constructor <;> decide

/-- The directory itself, and an entry of a type that there is not. -/
def brokenPlan : ImagePlan := ⟨[⟨[0x2E], 1, 0⟩, ⟨[0x78], 7, 0⟩], []⟩

theorem fits_broken : brokenPlan.Fits := by
  constructor <;> decide

theorem startable_of_stores {files : FileSystem} {block : Nat}
    (found : files.lookup shellName = .ok ⟨shellName, .regular, 0⟩)
    (stores : files.StoresFile 0 block shellProgram) {k : Kernel} {pid : ProcessId}
    (same : k.files = files) (room : k.processes.free? = some pid) :
    k.Startable shellName shell pid := by
  have length : files.fileLength 0 = .ok programHeaderSize := stores.fileLength_eq
  have read : files.read 0 0 programHeaderSize = .done shellProgram :=
    stores.read_eq (Nat.zero_le _) programHeaderSize
  refine ⟨?_, room, ?_⟩
  · rw [same, findProgram, if_neg (by decide), found]
    dsimp only
    rw [if_neg (by decide), length]
    dsimp only
    rw [if_neg (by decide), read]
    rfl
  · rw [same, shell, read]
    rfl

section Two

variable {files : FileSystem} (mounted : files.MountedFrom (PlannedEntry.plan twoEntries))
include mounted

theorem entry_directory : files.entry 0 = .ok ⟨[0x2E], .directory, 0⟩ :=
  entry_plan (i := 0) (e := .directory [0x2E]) wellFormed_two mounted rfl

theorem entry_program : files.entry 1 = .ok ⟨shellName, .regular, 0⟩ :=
  entry_plan (i := 1) (e := .file shellName shellProgram) wellFormed_two mounted rfl

theorem startable_two {k : Kernel} {pid : ProcessId} (same : k.files = files)
    (room : k.processes.free? = some pid) : k.Startable shellName shell pid :=
  startable_of_stores
    (lookup_plan (i := 1) (e := .file shellName shellProgram) wellFormed_two mounted rfl)
    (mounted.storesFile (i := 0) wellFormed_two.fits rfl) same room

theorem orderly_two : files.Orderly := by
  have count : files.entryCount = 2 := mounted.entryCount
  obtain ⟨typed, name⟩ := storedName_of_entry (count ▸ by decide) (entry_directory mounted)
  obtain ⟨typed', name'⟩ := storedName_of_entry (count ▸ by decide) (entry_program mounted)
  have cases (i : Nat) (inside : i < files.entryCount) : i = 0 ∨ i = 1 := by omega
  refine ⟨fun i untyped => ?_, fun i inside => ?_, fun i j inside inside' same => ?_⟩
  · rcases cases i untyped.inside with rfl | rfl
    · exact typed untyped
    · exact typed' untyped
  · rcases cases i inside with rfl | rfl
    · rw [name]
      decide
    · rw [name']
      decide
  · rcases cases i inside with rfl | rfl <;> rcases cases j inside' with rfl | rfl
    · rfl
    · rw [name, name'] at same
      exact absurd same (by decide)
    · rw [name, name'] at same
      exact absurd same (by decide)
    · rfl

end Two

theorem roster_play_openFile (k₀ : Kernel) (name : List UInt8) (earlier : List Action) :
    (k₀.play flow (.openFile name :: earlier)).2.roster = (k₀.play flow earlier).2.roster :=
  (Moment.roster_after ⟨_, .openFile name, some flow⟩).trans (roster_openFile _ name)

theorem roster_play_read (k₀ : Kernel) (fd : Nat) (room : Option Nat) (earlier : List Action) :
    (k₀.play flow (.read fd room :: earlier)).2.roster = (k₀.play flow earlier).2.roster :=
  (Moment.roster_after ⟨_, .read fd room, some flow⟩).trans (roster_read _ fd room)

theorem run_play (files : FileSystem) {actions : List Action} (begins : Action.Begins actions) :
    Run (.new files arena storage) ((Kernel.new files arena storage).play flow actions).1
      ((Kernel.new files arena storage).play flow actions).2 :=
  .of_play flow begins

/-- Whatever the image, the first process runs as long as nothing but it was started. -/
theorem current_play {files : FileSystem} {actions : List Action} (begins : Action.Begins actions)
    (same : ((Kernel.new files arena storage).play flow actions).2.roster = { started with files }) :
    ((Kernel.new files arena storage).play flow actions).2.currentPid? = some 0 := by
  have run := run_play files begins
  generalize ((Kernel.new files arena storage).play flow actions).2 = k at same run
  have scheduled : k.scheduled = .first := by
    rw [← scheduled_roster, same]
    rfl
  have seat : (k.session .first).seat = ⟨some 0, 1, true⟩ := by
    change k.roster.seat .first = _
    rw [same]
    exact (by decide +kernel : started.seat .first = ⟨some 0, 1, true⟩)
  rw [run.currentPid?_eq_owner, scheduled]
  exact congrArg Seat.owner seat

/-- The actions of a shell that reads the first name of its directory. -/
abbrev readingName : List Action := [.read 2 (some fileNameLength), .openFile [0x2E], .start]

theorem begins_reading : Action.Begins readingName := ⟨by simp, ⟨by simp, ⟨by simp, trivial⟩⟩⟩

/-- The moment at which it reads. -/
abbrev readsName (files : FileSystem) : Moment where
  before := ((Kernel.new files arena storage).play flow [.openFile [0x2E], .start]).2
  action := .read 2 (some fileNameLength)
  saved := some flow

section Started

variable {files : FileSystem}
  (starts : ∀ {k : Kernel} {pid : ProcessId}, k.files = files → k.processes.free? = some pid →
    k.Startable shellName shell pid)
include starts

theorem started_play :
    ((Kernel.new files arena storage).play flow [.start]).2.roster = { started with files } ∧
      ∃ args, ((Kernel.new files arena storage).play flow [.start]).2.holdings 0 = some (.new args) := by
  have ready : ((Kernel.new files arena storage).play flow []).2.Startable shellName shell 0 :=
    starts rfl rfl
  obtain ⟨transfer, after, _⟩ := Kernel.start_launches ready
  have roster := Moment.roster_after ⟨((Kernel.new files arena storage).play flow []).2, .start, some flow⟩
  have held := Moment.holdings_after
    ⟨((Kernel.new files arena storage).play flow []).2, .start, some flow⟩
  constructor
  · rw [Moment.decided, Moment.transfer, transfer, after] at roster
    exact roster
  · rw [Moment.decided] at held
    obtain ⟨args, here⟩ := (act_holdings _ .start).launched ⟨_, transfer, rfl⟩
    exact ⟨args, (congrFun held 0).trans here⟩

theorem opens_play {name : List UInt8} {e : DirectoryEntry} (found : files.lookup name = .ok e) :
    Moment.Opens ⟨((Kernel.new files arena storage).play flow [.start]).2, .openFile name, some flow⟩
      0 name 2 := by
  have begins : Action.Begins [.start] := ⟨by simp, trivial⟩
  obtain ⟨roster, args, held⟩ := started_play starts
  have current := current_play begins roster
  obtain ⟨p, running, holds⟩ := current_of_held current held
  have lowest : p.holdings.Lowest 2 := by
    rw [holds]
    exact ⟨by decide, by decide, rfl, fun _ high below => absurd below (Nat.not_lt.mpr high)⟩
  rw [← (run_play files begins).fixed.1] at found
  exact ⟨current, rfl, ((opensLowest _ _).succeeds 2).mpr ⟨0, p, _, running, found, lowest⟩⟩

end Started

section Shell

variable {files : FileSystem} (mounted : files.MountedFrom (PlannedEntry.plan twoEntries))
include mounted

theorem lookup_directory : files.lookup [0x2E] = .ok ⟨[0x2E], .directory, 0⟩ :=
  lookup_plan (i := 0) (e := .directory [0x2E]) wellFormed_two mounted rfl

theorem opens_directory :
    Moment.Opens ⟨((Kernel.new files arena storage).play flow [.start]).2, .openFile [0x2E], some flow⟩
      0 [0x2E] 2 :=
  opens_play (startable_two mounted) (lookup_directory mounted)

theorem current_opened_directory :
    ((Kernel.new files arena storage).play flow [.openFile [0x2E], .start]).2.currentPid? = some 0 :=
  current_play ⟨by simp, ⟨by simp, trivial⟩⟩
    ((roster_play_openFile _ _ _).trans (started_play (startable_two mounted)).1)

theorem length_deliveries_readsName : (deliveriesIn 0 2 [readsName files]).length = 1 := by
  have once := Moment.deliveries_of_read (m := readsName files) rfl
    (current_opened_directory mounted)
  rw [deliveriesIn, deliveriesIn, List.nil_append, once, List.length_singleton]

theorem current_reading :
    ((Kernel.new files arena storage).play flow readingName).2.currentPid? = some 0 :=
  current_play begins_reading ((roster_play_read _ _ _ _).trans
    ((roster_play_openFile _ _ _).trans (started_play (startable_two mounted)).1))

end Shell

section Broken

variable {files : FileSystem} (mounted : files.MountedFrom brokenPlan)
include mounted

theorem entry_sound : files.entry 0 = .ok ⟨[0x2E], .directory, 0⟩ :=
  mounted.entry (i := 0) (e := ⟨[0x2E], 1, 0⟩) fits_broken rfl rfl (by decide) (by decide)

theorem untyped_broken : files.Untyped 1 := by
  have has := ImagePlan.has_entry (i := 1) (e := ⟨[0x78], 7, 0⟩) fits_broken rfl
  rw [← mounted.image] at has
  have number := has.left.right.wordAt (by decide)
  rw [Bytes.length_padTo] at number
  refine ⟨mounted.entryCount ▸ by decide, ?_⟩
  rw [storedType?, number]
  rfl

end Broken

end Sample

/-- A shell reads the second name of its directory after the first one. In a directory with a broken
entry, listing stops at it, and so does every search for a name that does not stand before it. -/
theorem directory_listed_shell :
    (∃ files, FileSystem.mount (PlannedEntry.plan Sample.twoEntries).build = .ok files ∧
      (((Kernel.new files Sample.arena Sample.storage).play Sample.flow Sample.readingName).2.readInto 2
        (List.replicate 32 0x78)).2 = (shellName ++ List.replicate 27 0x78, .ok 5) ∧
      files.lookup shellName = files.entry 1) ∧
    ∃ files, FileSystem.mount Sample.brokenPlan.build = .ok files ∧
      files.listing 1 = .fail .invalidArgument ∧ files.lookup [0x2E] = files.entry 0 ∧
      files.lookup [0x79] = .error .corruptImage := by
  constructor
  · obtain ⟨files, accepted, mounted⟩ := FileSystem.mount_build Sample.wellFormed_two.fits
    have run := Sample.run_play files Sample.begins_reading
    have count : files.entryCount = 2 := mounted.entryCount
    obtain ⟨listed, orderly, _⟩ := run.directory_listed
    obtain ⟨names, found⟩ := orderly (Sample.orderly_two mounted)
    have name : files.storedName 1 = shellName :=
      (FileSystem.storedName_of_entry (count ▸ by decide) (Sample.entry_program mounted)).2
    obtain ⟨n, delivered, reads⟩ := listed [Sample.readsName files] _ _ 0 [0x2E] 2 _ rfl
      (Sample.opens_directory mounted) (Sample.lookup_directory mounted) rfl
      fun m' inside _ _ => by
        rw [List.mem_singleton] at inside
        exact ⟨fileNameLength, inside ▸ rfl, Nat.le_refl _⟩
    have once : 1 = n := by
      rw [← Sample.length_deliveries_readsName mounted, delivered, List.length_map,
        List.length_range]
    have second := (reads (Sample.current_reading mounted) (List.replicate 32 0x78)
      (by decide)).result
    rw [← once, names, count, if_pos (by decide), name] at second
    obtain ⟨e, entry, _, looked⟩ := found 1 (count ▸ by decide)
    exact ⟨files, accepted, second, (name ▸ looked).trans entry.symm⟩
  · obtain ⟨files, accepted, mounted⟩ := FileSystem.mount_build Sample.fits_broken
    have untyped := Sample.untyped_broken mounted
    obtain ⟨typed, name⟩ := FileSystem.storedName_of_entry
      (Nat.zero_lt_of_lt untyped.inside) (Sample.entry_sound mounted)
    have begins : Action.Begins [] := trivial
    obtain ⟨stops, looksUp⟩ := (Sample.run_play files begins).directory_listed.2.2 1 untyped
      fun j below => (Nat.lt_one_iff.mp below).symm ▸ typed
    refine ⟨files, accepted, (stops 1).trans (if_neg (by decide)), ?_, ?_⟩
    · rcases looksUp [0x2E] (by decide) (by decide) with
        ⟨i, e, _, before, entry, looked⟩ | ⟨none, _⟩
      · obtain rfl := Nat.lt_one_iff.mp (before 1 untyped)
        exact looked.trans entry.symm
      · obtain ⟨bad, broken, upTo⟩ := none 0 ⟨Nat.zero_lt_of_lt untyped.inside, name,
          fun _ below => absurd below (Nat.not_lt_zero _)⟩
        exact absurd (Nat.le_zero.mp upTo ▸ broken) typed
    · rcases looksUp [0x79] (by decide) (by decide) with ⟨i, e, first, before, _⟩ | ⟨_, failed⟩
      · obtain rfl := Nat.lt_one_iff.mp (before 1 untyped)
        exact absurd (name.symm.trans first.named) (by decide)
      · exact failed

end TerminalKernel

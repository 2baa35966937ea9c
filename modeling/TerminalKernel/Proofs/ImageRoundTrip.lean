import Mathlib.Data.List.Induction
import TerminalKernel.Proofs.ImageLayout

/-!
# Images read back

An image laid out from any list of entries is mounted, and the file system answers from it what was
put in: every entry at its index and under its name, and of every file its length and its bytes.
Nothing else is found, and no image that lost a byte at its end is mounted.
-/

namespace TerminalKernel

/-! ## What is put into an image -/

/-- An entry as the layout takes it. -/
inductive PlannedEntry
  | rtc (name : List UInt8)
  | directory (name : List UInt8)
  | file (name contents : List UInt8)

namespace PlannedEntry

def name : PlannedEntry → List UInt8
  | rtc name | directory name | file name _ => name

def fileType : PlannedEntry → FileType
  | rtc _ => .rtc
  | directory _ => .directory
  | file .. => .regular

/-- The number that stands for the type in an image. -/
def typeNumber : PlannedEntry → Nat
  | rtc _ => 0
  | directory _ => 1
  | file .. => 2

def contents? : PlannedEntry → Option (List UInt8)
  | rtc _ | directory _ => none
  | file _ contents => some contents

/-- The inode of an entry that comes after the given number of files. Only files have one of their
own. -/
def inode (before : Nat) : PlannedEntry → Nat
  | rtc _ | directory _ => 0
  | file .. => before

def add (p : ImagePlan) : PlannedEntry → ImagePlan
  | rtc name => p.addRtc name
  | directory name => p.addDirectory name
  | file name contents => p.addFile name contents

/-- The entry as it is stored. -/
def stored (before : Nat) (e : PlannedEntry) : StoredEntry := ⟨e.name, e.typeNumber, e.inode before⟩

/-- The entry as it is read back: the name loses what exceeds its field. -/
def found (before : Nat) (e : PlannedEntry) : DirectoryEntry :=
  ⟨e.name.take fileNameLength, e.fileType, e.inode before⟩

theorem ofNat?_typeNumber (e : PlannedEntry) : FileType.ofNat? e.typeNumber = some e.fileType := by
  cases e <;> rfl

theorem typeNumber_lt (e : PlannedEntry) : e.typeNumber < 2 ^ 32 := by
  unfold typeNumber
  split <;> decide

theorem inode_le (before : Nat) (e : PlannedEntry) : e.inode before ≤ before := by
  cases e with
  | rtc name | directory name => exact Nat.zero_le before
  | file name contents => exact Nat.le_refl before

/-- The contents of the files among some entries. -/
def filesOf (es : List PlannedEntry) : List (List UInt8) := es.filterMap contents?

/-- The plan of an image with the entries, in their order. -/
def plan (es : List PlannedEntry) : ImagePlan := es.foldl add .empty

/-- The files before the entry with an index. -/
def filesBefore (es : List PlannedEntry) (i : Nat) : Nat := (filesOf (es.take i)).length

variable {es : List PlannedEntry} {e : PlannedEntry} {i : Nat}

theorem plan_append (es : List PlannedEntry) (e : PlannedEntry) :
    plan (es ++ [e]) = add (plan es) e :=
  List.foldl_append

theorem files_plan (es : List PlannedEntry) : (plan es).files = filesOf es := by
  induction es using List.reverseRecOn with
  | nil => rfl
  | append_singleton es e ih =>
    rw [plan_append, filesOf, List.filterMap_append]
    cases e with
    | rtc name | directory name => exact ih.trans (List.append_nil _).symm
    | file name contents => exact congrArg (· ++ [contents]) ih

theorem entries_append (p : ImagePlan) (e : PlannedEntry) :
    (add p e).entries = p.entries ++ [e.stored p.files.length] := by
  cases e <;> rfl

theorem length_entries_plan (es : List PlannedEntry) : (plan es).entries.length = es.length := by
  induction es using List.reverseRecOn with
  | nil => rfl
  | append_singleton es e ih =>
    rw [plan_append, entries_append, List.length_append, List.length_append, ih]
    rfl

/-- Entries are stored in their order, and a file's inode is the number of files before it. -/
theorem getElem?_entries_plan (atIndex : es[i]? = some e) :
    (plan es).entries[i]? = some (e.stored (filesBefore es i)) := by
  induction es using List.reverseRecOn with
  | nil => cases atIndex
  | append_singleton es last ih =>
    rw [plan_append, entries_append]
    have size := length_entries_plan es
    by_cases earlier : i < es.length
    · rw [List.getElem?_append_left earlier] at atIndex
      rw [List.getElem?_append_left (size ▸ earlier), ih atIndex, filesBefore, filesBefore,
        List.take_append_of_le_length (Nat.le_of_lt earlier)]
    · have inside := (List.getElem?_eq_some_iff.mp atIndex).1
      rw [List.length_append, List.length_singleton] at inside
      obtain rfl : i = es.length := by omega
      rw [List.getElem?_concat_length, Option.some_inj] at atIndex
      subst atIndex
      rw [← size, List.getElem?_concat_length, size, files_plan, filesBefore, List.take_left]

theorem getElem?_filesOf {contents : List UInt8} (atIndex : es[i]? = some e)
    (isFile : e.contents? = some contents) : (filesOf es)[filesBefore es i]? = some contents := by
  obtain ⟨inside, rfl⟩ := List.getElem?_eq_some_iff.mp atIndex
  have split : es = es.take i ++ es[i] :: es.drop (i + 1) := by
    rw [← List.drop_eq_getElem_cons inside, List.take_append_drop]
  have files : filesOf es = filesOf (es.take i) ++ contents :: filesOf (es.drop (i + 1)) := by
    conv_lhs => rw [split]
    rw [filesOf, List.filterMap_append, List.filterMap_cons_some isFile]
    rfl
  rw [files, filesBefore, List.getElem?_append_right (Nat.le_refl _), Nat.sub_self]
  rfl

/-! ## Lists of entries that an image can hold -/

/-- The entries fit into the boot block and the files into their inodes, and the entries can be told
apart by what is stored of their names. -/
structure WellFormed (es : List PlannedEntry) : Prop where
  few : es.length ≤ maxEntries
  named : ∀ e ∈ es, e.name ≠ []
  noNul : ∀ e ∈ es, 0 ∉ e.name
  distinct : (es.map fun e => e.name.take fileNameLength).Nodup
  short : ∀ e ∈ es, ∀ contents ∈ e.contents?, contents.length ≤ blocksPerInode * blockSize

variable (wellFormed : WellFormed es)
include wellFormed

theorem WellFormed.fits : (plan es).Fits := by
  constructor
  · exact (length_entries_plan es).trans_le wellFormed.few
  · rw [files_plan]
    exact Nat.le_trans (List.length_filterMap_le _ _) wellFormed.few
  · intro contents inside
    rw [files_plan] at inside
    obtain ⟨e, listed, isFile⟩ := List.mem_filterMap.mp inside
    exact wellFormed.short e listed contents isFile

end PlannedEntry

/-! ## Mounting -/

namespace FileSystem

open Bytes ImagePlan

variable {image : Array UInt8} {p : ImagePlan}

theorem mount_of_fits (large : ¬image.size < blockSize)
    (fits : wordAt image 0 ≤ maxEntries ∧
      (1 + wordAt image 4 + wordAt image 8) * blockSize ≤ image.size) :
    mount image =
      .ok ⟨image, wordAt image 0, wordAt image 4, wordAt image 8, fits.1, fits.2⟩ := by
  rw [mount, if_neg large]
  exact dif_pos fits

theorem mount_of_size_lt
    (shorter : image.size < (1 + wordAt image 4 + wordAt image 8) * blockSize) :
    mount image = .error .corruptImage := by
  unfold mount
  split
  · rfl
  · exact dif_neg fun fits => Nat.not_lt.mpr fits.2 shorter

theorem wordAt_counts (fits : p.Fits) (has : Has image 0
      (ofWord p.entries.length ++ ofWord p.files.length ++ ofWord p.blockCount)) :
    wordAt image 0 = p.entries.length ∧ wordAt image 4 = p.files.length ∧
      wordAt image 8 = p.blockCount := by
  have entries := fits.entries
  have files := fits.files
  have blocks := fits.blockCount_lt
  refine ⟨has.left.left.wordAt (by lia), ?_, ?_⟩
  · have second := has.left.right.wordAt (by lia)
    rw [length_ofWord] at second
    exact second
  · have third := has.right.wordAt blocks
    rw [List.length_append, length_ofWord, length_ofWord] at third
    exact third

structure MountedFrom (fs : FileSystem) (p : ImagePlan) : Prop where
  image : fs.image = p.build
  entryCount : fs.entryCount = p.entries.length
  inodeCount : fs.inodeCount = p.files.length
  blockCount : fs.blockCount = p.blockCount

theorem mount_build (fits : p.Fits) : ∃ fs, mount p.build = .ok fs ∧ fs.MountedFrom p := by
  obtain ⟨entries, inodes, blocks⟩ := wordAt_counts fits (has_counts fits)
  have size := size_build p
  have few := fits.entries
  have large : ¬p.build.size < blockSize := by lia
  have counted : wordAt p.build 0 ≤ maxEntries ∧
      (1 + wordAt p.build 4 + wordAt p.build 8) * blockSize ≤ p.build.size := by
    rw [entries, inodes, blocks, size]
    exact ⟨few, Nat.le_refl _⟩
  exact ⟨_, mount_of_fits large counted, rfl, entries, inodes, blocks⟩

/-- An image that lost bytes at its end is not mounted. -/
theorem mount_truncated (fits : p.Fits) {size : Nat} (shorter : size < p.build.size) :
    mount (p.build.extract 0 size) = .error .corruptImage := by
  have left : (p.build.extract 0 size).size = size := by
    rw [Array.size_extract]
    omega
  by_cases small : size < blockSize
  · exact if_pos (left.trans_lt small)
  · -- The counts are still there, and they stand for the whole image.
    have agree : Agree p.build (p.build.extract 0 size) 0 size := by
      intro i _ inside
      rw [Array.getElem?_extract, Nat.zero_add, if_pos (by omega)]
    have counts := (has_counts fits).agree fun i low high => agree i low (by
      simp only [List.length_append, length_ofWord] at high
      lia)
    obtain ⟨_, inodes, blocks⟩ := wordAt_counts fits counts
    refine mount_of_size_lt ?_
    rw [inodes, blocks, ← size_build, left]
    exact shorter

/-! ## Reading the directory -/

variable {fs : FileSystem}

theorem MountedFrom.entry (mounted : fs.MountedFrom p) (fits : p.Fits) {i : Nat} {e : StoredEntry}
    {fileType : FileType} (listed : p.entries[i]? = some e)
    (known : FileType.ofNat? e.fileType = some fileType) (small : e.fileType < 2 ^ 32)
    (inode : e.inode < 2 ^ 32) :
    fs.entry i = .ok ⟨untilNul (padTo fileNameLength e.name), fileType, e.inode⟩ := by
  have inside : i < fs.entryCount := by
    rw [mounted.entryCount]
    exact (List.getElem?_eq_some_iff.mp listed).1
  have has := has_entry fits listed
  rw [← mounted.image] at has
  have name := has.left.left.slice
  have typeNumber := has.left.right.wordAt small
  have inodeNumber := has.right.wordAt inode
  rw [length_padTo] at name typeNumber
  rw [List.length_append, length_padTo, length_ofWord] at inodeNumber
  rw [FileSystem.entry, if_pos inside]
  dsimp only
  rw [name, typeNumber, known, Nat.add_assoc _ fileNameLength 4, inodeNumber]

/-- A search finds the only entry with a name. -/
theorem search_of_unique {name : List UInt8} {i : Nat} {found : DirectoryEntry}
    (here : fs.entry i = .ok found) (named : found.name = name) {indices : List Nat}
    (listed : i ∈ indices)
    (others : ∀ j ∈ indices, j ≠ i → ∃ e, fs.entry j = .ok e ∧ e.name ≠ name) :
    fs.search name indices = .ok found := by
  induction indices with
  | nil => cases listed
  | cons j rest ih =>
    by_cases same : j = i
    · subst same
      simp only [search, here, named, if_true]
    · obtain ⟨e, atIndex, different⟩ := others j List.mem_cons_self same
      simp only [search, atIndex, different, if_false]
      refine ih ?_ fun j inside => others j (List.mem_cons_of_mem _ inside)
      rcases List.mem_cons.mp listed with rfl | inside
      · exact absurd rfl same
      · exact inside

theorem search_of_absent {name : List UInt8} {indices : List Nat}
    (others : ∀ j ∈ indices, ∃ e, fs.entry j = .ok e ∧ e.name ≠ name) :
    fs.search name indices = .error .notFound := by
  induction indices with
  | nil => rfl
  | cons j rest ih =>
    obtain ⟨e, atIndex, different⟩ := others j List.mem_cons_self
    simp only [search, atIndex, different, if_false]
    exact ih fun j inside => others j (List.mem_cons_of_mem _ inside)

/-! ## Reading files -/

/-- The file system has a file: its inode, and its blocks from `block` on, hold the contents. -/
structure StoresFile (fs : FileSystem) (inode block : Nat) (contents : List UInt8) : Prop where
  holds : HoldsFile fs.image ((1 + fs.inodeCount) * blockSize) ((1 + inode) * blockSize) block contents
  inode : inode < fs.inodeCount
  blocks : block + blocksFor contents.length ≤ fs.blockCount
  countable : fs.blockCount < 2 ^ 32
  short : contents.length ≤ blocksPerInode * blockSize

theorem MountedFrom.storesFile (mounted : fs.MountedFrom p) (fits : p.Fits) {i : Nat}
    {contents : List UInt8} (listed : p.files[i]? = some contents) :
    fs.StoresFile i (blocksOf (p.files.take i)) contents := by
  have inside := (List.getElem?_eq_some_iff.mp listed).1
  have held := holds_file fits listed
  rw [← mounted.image, ← mounted.inodeCount] at held
  refine ⟨held, mounted.inodeCount ▸ inside, ?_, ?_, ?_⟩
  · rw [mounted.blockCount]
    exact blocksOf_take_add_le listed
  · rw [mounted.blockCount]
    exact fits.blockCount_lt
  · exact fits.short contents (List.mem_of_getElem? listed)

namespace StoresFile

variable {inode block : Nat} {contents : List UInt8} (stores : fs.StoresFile inode block contents)
include stores

theorem inodeStart_eq : fs.inodeStart inode = .ok ((1 + inode) * blockSize) :=
  if_pos stores.inode

theorem wordAt_eq : wordAt fs.image ((1 + inode) * blockSize) = contents.length :=
  stores.holds.length.wordAt (by have short := stores.short; lia)

theorem fileLength_eq : fs.fileLength inode = .ok contents.length := by
  rw [fileLength, stores.inodeStart_eq, Except.map, stores.wordAt_eq]

theorem dataStart_eq {s : Nat} (inside : s < blocksFor contents.length) :
    fs.dataStart ((1 + inode) * blockSize) s =
      .ok ((1 + fs.inodeCount) * blockSize + (block + s) * blockSize) := by
  have few := blocksFor_le stores.short
  have blocks := stores.blocks
  have countable := stores.countable
  have number := (stores.holds.number s inside).wordAt (by omega)
  rw [dataStart, if_neg (by omega)]
  dsimp only
  rw [number, if_pos (by omega), ← Nat.add_mul]

theorem blockByte?_eq {position : Nat} (inside : position < contents.length) :
    fs.blockByte? ((1 + inode) * blockSize) position = contents[position]? := by
  have part : position / blockSize < blocksFor contents.length := by
    simp only [blocksFor, blockSize]
    omega
  have rest : position % blockSize < blockSize := Nat.mod_lt _ (by decide)
  have place : position / blockSize * blockSize + position % blockSize = position :=
    Nat.div_add_mod' position blockSize
  have byte := stores.holds.data _ part (position % blockSize) (by
    rw [List.length_take, List.length_drop]
    omega)
  rw [blockByte?, stores.dataStart_eq part]
  dsimp only
  rw [byte, List.getElem?_take, if_pos rest, List.getElem?_drop, place]

theorem byteAt?_eq {position : Nat} (inside : position < contents.length) :
    fs.byteAt? inode position = contents[position]? := by
  rw [byteAt?, stores.inodeStart_eq]
  dsimp only
  rw [stores.wordAt_eq, if_pos inside, stores.blockByte?_eq inside]

end StoresFile

theorem failure_readParts_eq_none {start first last : Nat} {slots : List Nat}
    (whole : ∀ slot ∈ slots, ∃ data, fs.dataStart start slot = .ok data) :
    (fs.readParts start first last slots).failure = none := by
  induction slots with
  | nil => rfl
  | cons slot rest ih =>
    obtain ⟨data, found⟩ := whole slot List.mem_cons_self
    rw [readParts, found]
    exact ih fun s inside => whole s (List.mem_cons_of_mem _ inside)

/-- Reading a file from within delivers its bytes from there on, as many as there is room for. -/
theorem StoresFile.read_eq {inode block : Nat} {contents : List UInt8}
    (stores : fs.StoresFile inode block contents) {offset : Nat} (within : offset ≤ contents.length)
    (room : Nat) : fs.read inode offset room = .done ((contents.drop offset).take room) := by
  have whole : (fs.read inode offset room).failure = none := by
    rw [read, stores.inodeStart_eq]
    dsimp only
    rw [stores.wordAt_eq, if_neg (Nat.not_lt.mpr within)]
    refine failure_readParts_eq_none fun slot listed => ⟨_, stores.dataStart_eq ?_⟩
    unfold partsOf at listed
    split at listed
    · have bounds := List.mem_range'_1.mp listed
      simp only [blocksFor, blockSize] at *
      omega
    · cases listed
  obtain ⟨length, lengthEq, _, count, bytes⟩ := read_spec whole
  rw [stores.fileLength_eq, Except.ok.injEq] at lengthEq
  subst lengthEq
  have delivered : (fs.read inode offset room).bytes = (contents.drop offset).take room := by
    refine List.ext_getElem? fun i => ?_
    by_cases inside : i < (fs.read inode offset room).bytes.length
    · rw [← bytes i inside, stores.byteAt?_eq (by omega), List.getElem?_take, if_pos (by omega),
        List.getElem?_drop]
    · rw [List.getElem?_eq_none (by omega), List.getElem?_eq_none]
      rw [List.length_take, List.length_drop]
      omega
  generalize fs.read inode offset room = delivery at *
  rcases delivery with ⟨_, _⟩
  simp only at whole delivered
  rw [whole, delivered]
  rfl

end FileSystem

/-! ## The round trip -/

namespace Bytes

/-- Padding a name and dropping the padding loses what exceeds the field. -/
theorem untilNul_padTo {name : List UInt8} (noNul : 0 ∉ name) (size : Nat) :
    untilNul (padTo size name) = name.take size := by
  have kept : ∀ b ∈ name.take size, (b != 0) = true := by
    intro b inside
    rw [bne_iff_ne]
    rintro rfl
    exact noNul (List.mem_of_mem_take inside)
  rw [untilNul, padTo, List.takeWhile_append_of_pos kept, List.takeWhile_replicate]
  simp

end Bytes

namespace PlannedEntry

variable {es : List PlannedEntry}

/-- What the mounted file system finds at an index is the entry that was put there. -/
theorem entry_plan (wellFormed : WellFormed es) {fs : FileSystem}
    (mounted : fs.MountedFrom (plan es)) {i : Nat} {e : PlannedEntry} (listed : es[i]? = some e) :
    fs.entry i = .ok (e.found (filesBefore es i)) := by
  have stored := getElem?_entries_plan listed
  have before : filesBefore es i ≤ maxEntries := by
    have inside := (List.getElem?_eq_some_iff.mp listed).1
    have few := wellFormed.few
    refine Nat.le_trans (List.length_filterMap_le _ _) ?_
    rw [List.length_take]
    omega
  have inodes := e.inode_le (filesBefore es i)
  rw [mounted.entry wellFormed.fits stored e.ofNat?_typeNumber e.typeNumber_lt (by
    simp only [PlannedEntry.stored]
    lia)]
  simp only [PlannedEntry.stored, found,
    Bytes.untilNul_padTo (wellFormed.noNul e (List.mem_of_getElem? listed))]

theorem exists_entry_of_lt (wellFormed : WellFormed es) {fs : FileSystem}
    (mounted : fs.MountedFrom (plan es)) {j : Nat} (inside : j ∈ List.range fs.entryCount) :
    ∃ e, es[j]? = some e ∧ fs.entry j = .ok (e.found (filesBefore es j)) := by
  rw [mounted.entryCount, length_entries_plan, List.mem_range] at inside
  have listed := List.getElem?_eq_getElem inside
  exact ⟨es[j], listed, entry_plan wellFormed mounted listed⟩

theorem lookup_plan (wellFormed : WellFormed es) {fs : FileSystem}
    (mounted : fs.MountedFrom (plan es)) {i : Nat} {e : PlannedEntry} (listed : es[i]? = some e) :
    fs.lookup (e.name.take fileNameLength) = .ok (e.found (filesBefore es i)) := by
  have here := entry_plan wellFormed mounted listed
  have named := wellFormed.named e (List.mem_of_getElem? listed)
  have searched : ¬((e.name.take fileNameLength).isEmpty ∨
      fileNameLength < (e.name.take fileNameLength).length) := by
    rintro (empty | long)
    · rcases List.take_eq_nil_iff.mp (List.isEmpty_iff.mp empty) with none | nameless
      · cases none
      · exact named nameless
    · exact Nat.not_lt.mpr (List.length_take_le _ _) long
  rw [FileSystem.lookup, if_neg searched]
  refine FileSystem.search_of_unique here rfl ?_ fun j inside other => ?_
  · rw [mounted.entryCount, length_entries_plan, List.mem_range]
    exact (List.getElem?_eq_some_iff.mp listed).1
  · obtain ⟨e', listed', there⟩ := exists_entry_of_lt wellFormed mounted inside
    refine ⟨_, there, fun same => other ?_⟩
    have inside' := (List.getElem?_eq_some_iff.mp listed').1
    refine (List.getElem?_inj ?_ wellFormed.distinct).mp ?_
    · rw [List.length_map]
      exact inside'
    · rw [List.getElem?_map, List.getElem?_map, listed, listed', Option.map_some, Option.map_some]
      exact congrArg some same

theorem lookup_plan_of_absent (wellFormed : WellFormed es) {fs : FileSystem}
    (mounted : fs.MountedFrom (plan es)) {name : List UInt8}
    (absent : ∀ e ∈ es, e.name.take fileNameLength ≠ name) :
    fs.lookup name = .error .notFound := by
  unfold FileSystem.lookup
  split
  · rfl
  · refine FileSystem.search_of_absent fun j inside => ?_
    obtain ⟨e, listed, there⟩ := exists_entry_of_lt wellFormed mounted inside
    exact ⟨_, there, absent e (List.mem_of_getElem? listed)⟩

/-- The image of a well-formed list of entries is mounted. The file system counts the entries and
finds each of them at its index and under what is stored of its name, but none under any other name.
Of every file it knows the length and reads the bytes, from any position within it and into any
buffer. The image that lacks bytes at its end is taken for corrupt. -/
theorem mount_plan (wellFormed : WellFormed es) :
    (∃ fs, FileSystem.mount (plan es).build = .ok fs ∧ fs.entryCount = es.length ∧
      (∀ i e, es[i]? = some e →
        fs.entry i = .ok (e.found (filesBefore es i)) ∧
        fs.lookup (e.name.take fileNameLength) = .ok (e.found (filesBefore es i)) ∧
        ∀ contents ∈ e.contents?,
          fs.fileLength (filesBefore es i) = .ok contents.length ∧
          ∀ offset ≤ contents.length, ∀ room,
            fs.read (filesBefore es i) offset room = .done ((contents.drop offset).take room)) ∧
      ∀ name, (∀ e ∈ es, e.name.take fileNameLength ≠ name) →
        fs.lookup name = .error .notFound) ∧
    ∀ size < (plan es).build.size,
      FileSystem.mount ((plan es).build.extract 0 size) = .error .corruptImage := by
  obtain ⟨fs, accepted, mounted⟩ := FileSystem.mount_build wellFormed.fits
  refine ⟨⟨fs, accepted, mounted.entryCount.trans (length_entries_plan es), ?_, ?_⟩, ?_⟩
  · intro i e listed
    refine ⟨entry_plan wellFormed mounted listed, lookup_plan wellFormed mounted listed, ?_⟩
    intro contents isFile
    have stored := getElem?_filesOf listed isFile
    rw [← files_plan] at stored
    have stores := mounted.storesFile wellFormed.fits stored
    exact ⟨stores.fileLength_eq, fun offset within room => stores.read_eq within room⟩
  · exact fun name absent => lookup_plan_of_absent wellFormed mounted absent
  · exact fun size shorter => FileSystem.mount_truncated wellFormed.fits shorter

/-- A directory, the clock, an empty file, and a file of more than one block whose name is cut. -/
def sample : List PlannedEntry :=
  [.directory [0x2E], .rtc (ascii "rtc"), .file (ascii "empty") [],
    .file (List.replicate 33 0x78) (List.replicate 5000 0x07)]

/-- The long file is found under the first 32 bytes of its name, and read across its blocks'
boundary. -/
theorem mount_plan_sample :
    ∃ fs, FileSystem.mount (plan sample).build = .ok fs ∧
      fs.lookup (List.replicate 32 0x78) = .ok ⟨List.replicate 32 0x78, .regular, 1⟩ ∧
      fs.read 1 4090 10 = .done (List.replicate 10 0x07) := by
  have wellFormed : WellFormed sample := by
    constructor
    · decide
    · decide
    · decide
    · decide
    · simp only [sample, List.forall_mem_cons, contents?, Option.mem_def, Option.some_inj,
        forall_eq', List.length_replicate, reduceCtorEq, false_implies, implies_true]
      decide
  obtain ⟨⟨fs, accepted, _, entries, _⟩, _⟩ := mount_plan wellFormed
  obtain ⟨_, found, file⟩ := entries 3 _ rfl
  obtain ⟨_, read⟩ := file _ rfl
  refine ⟨fs, accepted, found, ?_⟩
  have bytes := read 4090 (by rw [List.length_replicate]; omega) 10
  rw [List.drop_replicate, List.take_replicate] at bytes
  exact bytes

end PlannedEntry

end TerminalKernel

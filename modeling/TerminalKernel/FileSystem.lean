import TerminalKernel.Bytes
import TerminalKernel.Limits
import TerminalKernel.SyscallError

/-!
# The read-only file system

An image is a sequence of blocks of 4096 bytes: a boot block with the directory, then the inodes,
then the data blocks. An inode holds a file's length and the numbers of its data blocks. Mounting
checks that the counts of the boot block fit the image, and from then on every access lies inside
it.
Core Lean only.
-/

namespace TerminalKernel

/-! ## Format -/

abbrev blockSize : Nat := 4096

/-- Bytes of one directory entry. -/
abbrev entrySize : Nat := 64

/-- Where the directory starts in the boot block. -/
abbrev directoryOffset : Nat := 64

/-- Directory entries that fit into the boot block. -/
abbrev maxEntries : Nat := 63

/-- Data blocks that one inode can name. -/
abbrev blocksPerInode : Nat := 1023

inductive FileType
  | rtc
  | directory
  | regular
  deriving DecidableEq, Repr

/-- The type stored as a number in a directory entry. -/
def FileType.ofNat? : Nat → Option FileType
  | 0 => some rtc
  | 1 => some directory
  | 2 => some regular
  | _ => none

structure DirectoryEntry where
  /-- The name without its padding. A name that fills its field has no terminator. -/
  name : List UInt8
  fileType : FileType
  inode : Nat
  deriving DecidableEq, Repr

/-! ## Mounting -/

structure FileSystem where
  image : Array UInt8
  entryCount : Nat
  inodeCount : Nat
  blockCount : Nat
  entries_le : entryCount ≤ maxEntries
  blocks_le : (1 + inodeCount + blockCount) * blockSize ≤ image.size

namespace FileSystem

/-- Read the counts of an image and check that the image is large enough for them. -/
def mount (image : Array UInt8) : Except FileError FileSystem :=
  if image.size < blockSize then .error .corruptImage
  else
    let entryCount := Bytes.wordAt image 0
    let inodeCount := Bytes.wordAt image 4
    let blockCount := Bytes.wordAt image 8
    if h : entryCount ≤ maxEntries ∧ (1 + inodeCount + blockCount) * blockSize ≤ image.size then
      .ok ⟨image, entryCount, inodeCount, blockCount, h.1, h.2⟩
    else .error .corruptImage

/-! ## Directory -/

def entry (fs : FileSystem) (index : Nat) : Except FileError DirectoryEntry :=
  if index < fs.entryCount then
    let start := directoryOffset + index * entrySize
    match FileType.ofNat? (Bytes.wordAt fs.image (start + fileNameLength)) with
    | some fileType =>
      .ok ⟨Bytes.untilNul (Bytes.slice fs.image start fileNameLength), fileType,
        Bytes.wordAt fs.image (start + fileNameLength + 4)⟩
    | none => .error .corruptImage
  else .error .notFound

/-- The first of the entries with the given indices that has a name. An entry that cannot be read
ends the search. -/
def search (fs : FileSystem) (name : List UInt8) : List Nat → Except FileError DirectoryEntry
  | [] => .error .notFound
  | index :: rest =>
    match fs.entry index with
    | .error cause => .error cause
    | .ok found => if found.name = name then .ok found else search fs name rest

/-- The first entry with a name. No name of more than 32 bytes is stored. -/
def lookup (fs : FileSystem) (name : List UInt8) : Except FileError DirectoryEntry :=
  if name.isEmpty ∨ fileNameLength < name.length then .error .notFound
  else fs.search name (List.range fs.entryCount)

/-! ## Files -/

def inodeStart (fs : FileSystem) (inode : Nat) : Except FileError Nat :=
  if inode < fs.inodeCount then .ok ((1 + inode) * blockSize) else .error .badInode

def fileLength (fs : FileSystem) (inode : Nat) : Except FileError Nat :=
  (fs.inodeStart inode).map (Bytes.wordAt fs.image)

/-- Where the data block lies that holds the `slot`-th part of the file whose inode starts at
`start`. -/
def dataStart (fs : FileSystem) (start slot : Nat) : Except FileError Nat :=
  if blocksPerInode ≤ slot then .error .corruptImage
  else
    let block := Bytes.wordAt fs.image (start + 4 + slot * 4)
    if block < fs.blockCount then .ok ((1 + fs.inodeCount + block) * blockSize)
    else .error .badDataBlock

/-- Copy the file positions from `first` to below `last` that lie in the given parts, part by
part. -/
def readParts (fs : FileSystem) (start first last : Nat) : List Nat → Delivery FileError
  | [] => .done []
  | slot :: rest =>
    match fs.dataStart start slot with
    | .error cause => .fail cause
    | .ok data =>
      let lo := max first (slot * blockSize)
      let hi := min last ((slot + 1) * blockSize)
      (readParts fs start first last rest).after
        (Bytes.slice fs.image (data + (lo - slot * blockSize)) (hi - lo))

/-- The parts of a file that hold the positions from `first` to below `last`. -/
def partsOf (first last : Nat) : List Nat :=
  if first < last then
    List.range' (first / blockSize) ((last - 1) / blockSize - first / blockSize + 1)
  else []

/-- Copy bytes of a file from `offset` on into a buffer with the given room, up to the end of the
file. -/
def read (fs : FileSystem) (inode offset room : Nat) : Delivery FileError :=
  match fs.inodeStart inode with
  | .error cause => .fail cause
  | .ok start =>
    let length := Bytes.wordAt fs.image start
    if length < offset then .fail .offsetPastEnd
    else
      let last := offset + min room (length - offset)
      fs.readParts start offset last (partsOf offset last)

/-- Consecutive parts hold no more than what lies between the start of the first and `last`. -/
theorem length_readParts_le (fs : FileSystem) (start first last slot count : Nat) :
    (fs.readParts start first last (List.range' slot count)).bytes.length ≤
      last - max first (slot * blockSize) := by
  induction count generalizing slot with
  | zero => exact Nat.zero_le _
  | succ count ih =>
    rw [List.range'_succ, readParts]
    split
    · exact Nat.zero_le _
    · have rest := ih (slot + 1)
      have here := Bytes.length_slice_le fs.image
      simp only [Delivery.after, List.length_append]
      refine Nat.le_trans (Nat.add_le_add (here _ _) rest) ?_
      simp only [blockSize]
      omega

theorem length_read_le (fs : FileSystem) (inode offset room : Nat) :
    (fs.read inode offset room).bytes.length ≤ room := by
  unfold read
  split
  · exact Nat.zero_le _
  · dsimp only
    split
    · exact Nat.zero_le _
    · unfold partsOf
      split
      · refine Nat.le_trans (fs.length_readParts_le _ _ _ _ _) ?_
        omega
      · exact Nat.zero_le _

end FileSystem

end TerminalKernel

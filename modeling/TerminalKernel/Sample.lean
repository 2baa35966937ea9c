import TerminalKernel.Kernel.Files
import TerminalKernel.Kernel.Schedule

/-!
# A kernel to try things on

A small image with three programs and two other files, a place for everything in memory, and the way
to go on after a transfer when no processor is there to carry it out: a fixed context stands for
every flow that would be saved. A second image, of three blocks, has a shell on it and nothing else.
Core Lean only.
-/

namespace TerminalKernel.Sample

/-- The entries that every sample image starts with. -/
def base : ImagePlan := (ImagePlan.empty.addDirectory (ascii ".")).addRtc (ascii "rtc")

/-- A program whose entry point lies at an offset of the load address. -/
def programAt (entryOffset : Nat) (body : List UInt8) : List UInt8 :=
  program (programLoadAddress + entryOffset) body

def plan : ImagePlan :=
  base.addFile shellName (programAt 0x100 (ascii "shell body"))
    |>.addFile (ascii "cat") (programAt 0x80 (ascii "cat body"))
    |>.addFile (ascii "counter") (programAt 0x40 (ascii "counter body"))
    |>.addFile (ascii "frame0.txt") (ascii "hello fish\n")
    |>.addFile (ascii "tiny") [0x7F, 0x45, 0x4C, 0x46, 0, 0]

/-- Kernel stacks at the end of the lower half of the address space, above all else in memory. -/
def arena : Arena := ⟨0x7FFFFFFFE000, 0x1000, by decide, by decide, by decide⟩

def storage : Kernel.Storage where
  pages := default
  directory := Vector.replicate 512 0
  videoTable := Vector.replicate 512 0
  tableAddress := 0x210000
  terminals := .fill .blank
  sessions := .fill .idle

/-- The context that stands for a saved flow. -/
def flow : SavedContext := .suspended 0x2000 0x1000

def settle (k : Kernel) (transfer : Transfer) : Kernel := k.park transfer flow

/-- Start the command of the running process; the new process's number. -/
def launch (k : Kernel) (line : List UInt8) : Kernel × Option ProcessId :=
  match k.execute line with
  | (k, .ok (.launch l)) => (k, some l.pid)
  | (k, _) => (k, none)

/-! ## Nothing but a shell -/

/-- The program's image: its header and nothing else. -/
def shellProgram : List UInt8 := programAt 0x100 []

def shellDirectory : List UInt8 :=
  Bytes.padTo directoryOffset (Bytes.ofWord 1 ++ Bytes.ofWord 1 ++ Bytes.ofWord 1) ++
    (StoredEntry.mk shellName 2 0).bytes

/-- The program's length and its one data block. -/
def shellInode : List UInt8 := Bytes.ofWord programHeaderSize ++ Bytes.ofWord 0

def shellBlocks : List (List UInt8) := [shellDirectory, shellInode, shellProgram]

/-- A file system of three blocks. -/
def shellFiles : FileSystem where
  image := ofBlocks shellBlocks
  entryCount := 1
  inodeCount := 1
  blockCount := 1
  entries_le := by decide
  blocks_le := by
    rw [size_ofBlocks]
    decide

theorem slice_directory (offset length : Nat) (fits : offset + length ≤ shellDirectory.length) :
    Bytes.slice shellFiles.image offset length = (shellDirectory.drop offset).take length := by
  have found := slice_ofBlocks (show shellBlocks[0]? = some shellDirectory from rfl) (by decide)
    offset length fits
  rwa [Nat.zero_mul, Nat.zero_add] at found

theorem slice_inode (offset length : Nat) (fits : offset + length ≤ shellInode.length) :
    Bytes.slice shellFiles.image (blockSize + offset) length =
      (shellInode.drop offset).take length := by
  have found := slice_ofBlocks (show shellBlocks[1]? = some shellInode from rfl) (by decide)
    offset length fits
  rwa [Nat.one_mul] at found

theorem slice_program (offset length : Nat) (fits : offset + length ≤ shellProgram.length) :
    Bytes.slice shellFiles.image (2 * blockSize + offset) length =
      (shellProgram.drop offset).take length :=
  slice_ofBlocks (show shellBlocks[2]? = some shellProgram from rfl) (by decide) offset length fits

theorem entry_shell : shellFiles.entry 0 = .ok ⟨shellName, .regular, 0⟩ := by
  have name : Bytes.slice shellFiles.image 64 fileNameLength = Bytes.padTo fileNameLength shellName :=
    slice_directory 64 32 (by decide)
  have fileType : Bytes.wordAt shellFiles.image (64 + fileNameLength) = 2 :=
    congrArg Bytes.toNat (slice_directory 96 4 (by decide))
  have inode : Bytes.wordAt shellFiles.image (64 + fileNameLength + 4) = 0 :=
    congrArg Bytes.toNat (slice_directory 100 4 (by decide))
  have here : directoryOffset + 0 * entrySize = 64 := rfl
  rw [FileSystem.entry, if_pos (by decide), here]
  dsimp only
  rw [name, fileType, inode]
  rfl

theorem lookup_shell : shellFiles.lookup shellName = .ok ⟨shellName, .regular, 0⟩ := by
  have only : List.range shellFiles.entryCount = [0] := rfl
  rw [FileSystem.lookup, if_neg (by decide), only, FileSystem.search, entry_shell]
  rfl

theorem length_shell : Bytes.wordAt shellFiles.image blockSize = programHeaderSize :=
  congrArg Bytes.toNat (slice_inode 0 4 (by decide))

theorem inodeStart_shell : shellFiles.inodeStart 0 = .ok blockSize := rfl

theorem fileLength_shell : shellFiles.fileLength 0 = .ok programHeaderSize := by
  rw [FileSystem.fileLength, inodeStart_shell, Except.map, length_shell]

theorem read_shell : shellFiles.read 0 0 programHeaderSize = .done shellProgram := by
  have block : Bytes.wordAt shellFiles.image (blockSize + 4) = 0 :=
    congrArg Bytes.toNat (slice_inode 4 4 (by decide))
  have data : shellFiles.dataStart blockSize 0 = .ok (2 * blockSize) := by
    rw [FileSystem.dataStart, if_neg (by decide), Nat.zero_mul, Nat.add_zero, block]
    rfl
  have contents : Bytes.slice shellFiles.image (2 * blockSize) programHeaderSize = shellProgram :=
    slice_program 0 28 (by decide)
  have only : FileSystem.partsOf 0 programHeaderSize = [0] := rfl
  have whole : min programHeaderSize ((0 + 1) * blockSize) - 0 = programHeaderSize := rfl
  rw [FileSystem.read, inodeStart_shell]
  dsimp only
  rw [length_shell, if_neg (Nat.not_lt_zero _), Nat.sub_zero, Nat.min_self, Nat.zero_add, only,
    FileSystem.readParts, data]
  dsimp only
  rw [Nat.zero_mul, Nat.max_self, Nat.sub_self, Nat.add_zero, whole, contents]
  rfl

theorem findProgram_shell : shellFiles.findProgram shellName =
    .ok ⟨0, programHeaderSize, programLoadAddress + 0x100⟩ := by
  rw [FileSystem.findProgram, if_neg (by decide), lookup_shell]
  dsimp only
  rw [if_neg (by decide), fileLength_shell]
  dsimp only
  rw [if_neg (by decide), read_shell]
  rfl

end TerminalKernel.Sample

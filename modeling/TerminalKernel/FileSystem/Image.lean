import TerminalKernel.FileSystem
import TerminalKernel.Layout

/-!
# Laying out images

The writing side of the file system: an image with a directory and files, the files' data blocks
numbered one after another, and the form of a program that can be executed.
Core Lean only.
-/

namespace TerminalKernel

/-! ## Programs -/

/-- The first bytes of every program. -/
def programMagic : List UInt8 := [0x7F, 0x45, 0x4C, 0x46]

/-- Where a program's header keeps its entry point. -/
abbrev entryPointOffset : Nat := 24

abbrev programHeaderSize : Nat := 28

/-- A program that starts at `entry`, its header followed by `body`. -/
def program (entry : Nat) (body : List UInt8) : List UInt8 :=
  Bytes.padTo entryPointOffset programMagic ++ Bytes.ofWord entry ++ body

/-! ## Blocks -/

/-- Blocks one after another, each padded with zeros. -/
def ofBlocks (blocks : List (List UInt8)) : Array UInt8 :=
  (blocks.flatMap (Bytes.padTo blockSize)).toArray

theorem size_ofBlocks (blocks : List (List UInt8)) :
    (ofBlocks blocks).size = blocks.length * blockSize := by
  rw [ofBlocks, List.size_toArray]
  induction blocks with
  | nil => rfl
  | cons first rest ih =>
    rw [List.flatMap_cons, List.length_append, Bytes.length_padTo, ih, List.length_cons,
      Nat.succ_mul, Nat.add_comm]

/-- What a block holds is found behind the blocks before it. -/
theorem slice_ofBlocks {blocks : List (List UInt8)} {block : Nat} {bytes : List UInt8}
    (found : blocks[block]? = some bytes) (short : bytes.length ≤ blockSize) (offset length : Nat)
    (fits : offset + length ≤ bytes.length) :
    Bytes.slice (ofBlocks blocks) (block * blockSize + offset) length =
      (bytes.drop offset).take length := by
  rw [Bytes.slice_eq, ofBlocks]
  induction blocks generalizing block with
  | nil => simp at found
  | cons first rest ih =>
    rw [List.flatMap_cons]
    cases block with
    | zero =>
      rw [List.getElem?_cons_zero, Option.some_inj] at found
      subst found
      rw [Nat.zero_mul, Nat.zero_add, Bytes.padTo, List.take_of_length_le short, List.append_assoc,
        List.drop_append_of_le_length (by omega), List.take_append_of_le_length]
      rw [List.length_drop]
      omega
    | succ block =>
      have behind : (block + 1) * blockSize + offset =
          (Bytes.padTo blockSize first).length + (block * blockSize + offset) := by
        rw [Bytes.length_padTo, Nat.succ_mul]
        omega
      rw [behind, List.drop_length_add_append]
      exact ih found

/-! ## Images -/

/-- A directory entry as it is stored: the type is a number, so that any can be written. -/
structure StoredEntry where
  name : List UInt8
  fileType : Nat
  inode : Nat
  deriving DecidableEq, Repr

def StoredEntry.bytes (e : StoredEntry) : List UInt8 :=
  Bytes.padTo fileNameLength e.name ++ Bytes.ofWord e.fileType ++ Bytes.ofWord e.inode

/-- What an image is made of: file `i` gets inode `i`. -/
structure ImagePlan where
  entries : List StoredEntry
  files : List (List UInt8)
  deriving DecidableEq, Repr

namespace ImagePlan

def empty : ImagePlan := ⟨[], []⟩

/-- Data blocks that a file of some length needs. -/
def blocksFor (length : Nat) : Nat := (length + blockSize - 1) / blockSize

/-- Data blocks of all files together. -/
def blockCount (p : ImagePlan) : Nat :=
  p.files.foldr (fun contents count => blocksFor contents.length + count) 0

/-! ### Adding entries -/

def addRtc (p : ImagePlan) (name : List UInt8) : ImagePlan :=
  { p with entries := p.entries ++ [⟨name, 0, 0⟩] }

def addDirectory (p : ImagePlan) (name : List UInt8) : ImagePlan :=
  { p with entries := p.entries ++ [⟨name, 1, 0⟩] }

def addFile (p : ImagePlan) (name contents : List UInt8) : ImagePlan :=
  { entries := p.entries ++ [⟨name, 2, p.files.length⟩], files := p.files ++ [contents] }

/-! ### Writing -/

/-- Write directory entries from index `index` on. -/
def writeEntries (image : Array UInt8) (index : Nat) : List StoredEntry → Array UInt8
  | [] => image
  | e :: rest =>
    writeEntries (Bytes.patch image (directoryOffset + index * entrySize) e.bytes) (index + 1) rest

/-- The first `count` blocks of a file's contents. Only the last one may be shorter than a block. -/
def pieces : (count : Nat) → List UInt8 → List (List UInt8)
  | 0, _ => []
  | count + 1, contents => contents.take blockSize :: pieces count (contents.drop blockSize)

/-- Write the blocks of a file, each one's number at its place of the inode and then its bytes. The
numbers go from `slot` on; the data blocks are those from `block` on, block zero at `dataStart`. -/
def writeBlocks (image : Array UInt8) (dataStart slot block : Nat) :
    List (List UInt8) → Array UInt8
  | [] => image
  | piece :: rest =>
    let image := Bytes.patch image slot (Bytes.ofWord block)
    let image := Bytes.patch image (dataStart + block * blockSize) piece
    writeBlocks image dataStart (slot + 4) (block + 1) rest

/-- Write files from inode `inode` and data block `block` on, the data blocks starting at
`dataStart`. -/
def writeFiles (image : Array UInt8) (dataStart inode block : Nat) :
    List (List UInt8) → Array UInt8
  | [] => image
  | contents :: rest =>
    let start := (1 + inode) * blockSize
    let count := blocksFor contents.length
    let image := Bytes.patch image start (Bytes.ofWord contents.length)
    let image := writeBlocks image dataStart (start + 4) block (pieces count contents)
    writeFiles image dataStart (inode + 1) (block + count) rest

def build (p : ImagePlan) : Array UInt8 :=
  let image := Array.replicate ((1 + p.files.length + p.blockCount) * blockSize) 0
  let image := Bytes.patch image 0
    (Bytes.ofWord p.entries.length ++ Bytes.ofWord p.files.length ++ Bytes.ofWord p.blockCount)
  let image := writeEntries image 0 p.entries
  writeFiles image ((1 + p.files.length) * blockSize) 0 0 p.files

end ImagePlan

end TerminalKernel

import TerminalKernel.FileSystem.Image
import TerminalKernel.Proofs.FileContents

/-!
# What a laid out image holds

Laying out an image writes the counts, then the directory entries, then file by file the length, the
numbers of the data blocks and the blocks themselves. Each part is written once and to a place of
its own: the entries lie in the boot block, a file's length and block numbers in its inode, and the
data blocks follow each other from file to file. So what is written stays, and the finished image
holds every part where the reader looks for it.
-/

namespace TerminalKernel

/-! ## Bytes in an image -/

namespace Bytes

/-- The image has the bytes from `offset` on. -/
def Has (image : Array UInt8) (offset : Nat) (bytes : List UInt8) : Prop :=
  ∀ i, i < bytes.length → image[offset + i]? = bytes[i]?

/-- Both images have the same bytes from `first` to below `last`. -/
def Agree (image image' : Array UInt8) (first last : Nat) : Prop :=
  ∀ i, first ≤ i → i < last → image'[i]? = image[i]?

variable {image image' image'' : Array UInt8} {offset first last : Nat} {bytes more : List UInt8}

theorem Agree.refl (image : Array UInt8) (first last : Nat) : Agree image image first last :=
  fun _ _ _ => rfl

theorem Agree.trans (one : Agree image image' first last) (two : Agree image' image'' first last) :
    Agree image image'' first last :=
  fun i low high => (two i low high).trans (one i low high)

theorem Has.agree (has : Has image offset bytes)
    (agree : Agree image image' offset (offset + bytes.length)) : Has image' offset bytes :=
  fun i inside => (agree (offset + i) (by omega) (by omega)).trans (has i inside)

theorem Has.left (has : Has image offset (bytes ++ more)) : Has image offset bytes := by
  intro i inside
  rw [has i (by rw [List.length_append]; omega), List.getElem?_append_left inside]

theorem Has.right (has : Has image offset (bytes ++ more)) :
    Has image (offset + bytes.length) more := by
  intro i inside
  rw [Nat.add_assoc, has (bytes.length + i) (by rw [List.length_append]; omega),
    List.getElem?_append_right (Nat.le_add_right _ _), Nat.add_sub_cancel_left]

theorem Has.slice (has : Has image offset bytes) : slice image offset bytes.length = bytes := by
  refine List.ext_getElem? fun i => ?_
  by_cases inside : i < bytes.length
  · rw [getElem?_slice _ _ inside, has i inside]
  · rw [List.getElem?_eq_none (Nat.le_trans (length_slice_le _ _ _) (Nat.not_lt.mp inside)),
      List.getElem?_eq_none (Nat.not_lt.mp inside)]

@[simp] theorem length_ofWord (value : Nat) : (ofWord value).length = 4 := length_ofNat 4 value

theorem Has.wordAt {value : Nat} (has : Has image offset (ofWord value)) (small : value < 2 ^ 32) :
    wordAt image offset = value := by
  have read := has.slice
  rw [length_ofWord] at read
  rw [Bytes.wordAt, read, toNat_ofNat]
  exact Nat.mod_eq_of_lt small

/-! ### Writing -/

/-- Writing changes no byte outside. -/
theorem agree_patch (image : Array UInt8) (bytes : List UInt8)
    (outside : last ≤ offset ∨ offset + bytes.length ≤ first) :
    Agree image (patch image offset bytes) first last := by
  induction bytes generalizing image offset with
  | nil => exact .refl image first last
  | cons b rest ih =>
    rw [List.length_cons] at outside
    have head : Agree image (image.setIfInBounds offset b) first last := by
      intro i low high
      rw [Array.getElem?_setIfInBounds_ne (by omega)]
    exact head.trans (ih _ (by omega))

theorem has_patch (image : Array UInt8) (fits : offset + bytes.length ≤ image.size) :
    Has (patch image offset bytes) offset bytes := by
  induction bytes generalizing image offset with
  | nil =>
    intro i inside
    cases inside
  | cons b rest ih =>
    rw [List.length_cons] at fits
    intro i inside
    cases i with
    | zero =>
      have kept : Agree (image.setIfInBounds offset b) (patch image offset (b :: rest)) offset
          (offset + 1) := agree_patch _ rest (.inl (Nat.le_refl _))
      rw [Nat.add_zero, kept offset (Nat.le_refl _) (Nat.lt_succ_self _),
        Array.getElem?_setIfInBounds_self_of_lt (by omega), List.getElem?_cons_zero]
    | succ i =>
      have tail : Has (patch image offset (b :: rest)) (offset + 1) rest := ih _ (by
        rw [Array.size_setIfInBounds]
        omega)
      rw [List.getElem?_cons_succ, ← tail i (Nat.lt_of_succ_lt_succ inside)]
      congr 1
      omega

end Bytes

namespace ImagePlan

open Bytes

/-! ## Directory entries -/

theorem length_entry (e : StoredEntry) : e.bytes.length = 40 := by
  simp only [StoredEntry.bytes, List.length_append, length_padTo, length_ofNat, fileNameLength]

variable {image : Array UInt8} {index : Nat} {first last : Nat}

@[simp] theorem size_writeEntries (image : Array UInt8) (index : Nat) (entries : List StoredEntry) :
    (writeEntries image index entries).size = image.size := by
  induction entries generalizing image index with
  | nil => rfl
  | cons e rest ih => rw [writeEntries, ih, size_patch]

theorem agree_writeEntries (image : Array UInt8) (entries : List StoredEntry)
    (outside : last ≤ directoryOffset + index * entrySize ∨
      directoryOffset + (index + entries.length) * entrySize ≤ first) :
    Agree image (writeEntries image index entries) first last := by
  induction entries generalizing image index with
  | nil => exact .refl image first last
  | cons e rest ih =>
    have size := length_entry e
    rw [List.length_cons] at outside
    refine (agree_patch image e.bytes ?_).trans (ih _ ?_) <;> lia

theorem has_writeEntries (image : Array UInt8) {entries : List StoredEntry}
    (fits : directoryOffset + (index + entries.length) * entrySize ≤ image.size) {i : Nat}
    {e : StoredEntry} (found : entries[i]? = some e) :
    Has (writeEntries image index entries) (directoryOffset + (index + i) * entrySize) e.bytes := by
  induction entries generalizing image index i with
  | nil => cases found
  | cons head rest ih =>
    have size := length_entry head
    rw [List.length_cons] at fits
    cases i with
    | zero =>
      rw [List.getElem?_cons_zero, Option.some_inj] at found
      subst found
      refine (has_patch image ?_).agree (agree_writeEntries _ rest (.inl ?_)) <;> lia
    | succ i =>
      rw [Nat.add_comm i, ← Nat.add_assoc]
      refine ih _ ?_ found
      rw [size_patch]
      lia

/-! ## Data blocks -/

variable {dataStart slot block : Nat}

theorem length_pieces (count : Nat) (contents : List UInt8) :
    (pieces count contents).length = count := by
  induction count generalizing contents with
  | zero => rfl
  | succ count ih => rw [pieces, List.length_cons, ih]

theorem getElem?_pieces {count s : Nat} (inside : s < count) (contents : List UInt8) :
    (pieces count contents)[s]? = some ((contents.drop (s * blockSize)).take blockSize) := by
  induction count generalizing s contents with
  | zero => cases inside
  | succ count ih =>
    cases s with
    | zero => rw [pieces, List.getElem?_cons_zero, Nat.zero_mul, List.drop_zero]
    | succ s =>
      rw [pieces, List.getElem?_cons_succ, ih (Nat.lt_of_succ_lt_succ inside), List.drop_drop,
        Nat.succ_mul, Nat.add_comm]

theorem length_le_of_mem_pieces {count : Nat} {contents piece : List UInt8}
    (inside : piece ∈ pieces count contents) : piece.length ≤ blockSize := by
  induction count generalizing contents with
  | zero => cases inside
  | succ count ih =>
    rcases List.mem_cons.mp inside with rfl | inside
    · exact List.length_take_le _ _
    · exact ih inside

@[simp] theorem size_writeBlocks (image : Array UInt8) (dataStart slot block : Nat)
    (blocks : List (List UInt8)) :
    (writeBlocks image dataStart slot block blocks).size = image.size := by
  induction blocks generalizing image slot block with
  | nil => rfl
  | cons piece rest ih => rw [writeBlocks, ih, size_patch, size_patch]

/-- Blocks are written to their places of the inode and to the data blocks. -/
theorem agree_writeBlocks (image : Array UInt8) {blocks : List (List UInt8)}
    (short : ∀ piece ∈ blocks, piece.length ≤ blockSize)
    (numbers : last ≤ slot ∨ slot + blocks.length * 4 ≤ first)
    (data : last ≤ dataStart + block * blockSize ∨
      dataStart + (block + blocks.length) * blockSize ≤ first) :
    Agree image (writeBlocks image dataStart slot block blocks) first last := by
  induction blocks generalizing image slot block with
  | nil => exact .refl image first last
  | cons piece rest ih =>
    have fits := short piece List.mem_cons_self
    have rest_short : ∀ p ∈ rest, p.length ≤ blockSize :=
      fun p inside => short p (List.mem_cons_of_mem _ inside)
    have word := length_ofWord block
    rw [List.length_cons] at numbers data
    refine ((agree_patch image (ofWord block) ?_).trans (agree_patch _ piece ?_)).trans
      (ih _ rest_short ?_ ?_) <;> lia

theorem has_writeBlocks (image : Array UInt8) {blocks : List (List UInt8)}
    (short : ∀ piece ∈ blocks, piece.length ≤ blockSize)
    (apart : slot + blocks.length * 4 ≤ dataStart + block * blockSize)
    (fits : dataStart + (block + blocks.length) * blockSize ≤ image.size) {s : Nat}
    {piece : List UInt8} (found : blocks[s]? = some piece) :
    Has (writeBlocks image dataStart slot block blocks) (slot + s * 4) (ofWord (block + s)) ∧
      Has (writeBlocks image dataStart slot block blocks) (dataStart + (block + s) * blockSize)
        piece := by
  induction blocks generalizing image slot block s with
  | nil => cases found
  | cons head rest ih =>
    have head_fits := short head List.mem_cons_self
    have rest_short : ∀ p ∈ rest, p.length ≤ blockSize :=
      fun p inside => short p (List.mem_cons_of_mem _ inside)
    have word := length_ofWord block
    rw [List.length_cons] at apart fits
    rw [writeBlocks]
    cases s with
    | zero =>
      rw [List.getElem?_cons_zero, Option.some_inj] at found
      subst found
      rw [Nat.zero_mul, Nat.add_zero, Nat.add_zero]
      constructor
      · refine ((has_patch image ?_).agree (agree_patch _ head (.inl ?_))).agree
          (agree_writeBlocks _ rest_short (.inl ?_) (.inl ?_)) <;> lia
      · have size := size_patch image slot (ofWord block)
        refine (has_patch _ ?_).agree (agree_writeBlocks _ rest_short (.inr ?_) (.inl ?_)) <;> lia
    | succ s =>
      have here : slot + (s + 1) * 4 = slot + 4 + s * 4 := by
        rw [Nat.succ_mul, Nat.add_comm (s * 4), Nat.add_assoc]
      rw [here, Nat.add_comm s, ← Nat.add_assoc]
      refine ih _ rest_short ?_ ?_ found
      · lia
      · rw [size_patch, size_patch]
        lia

/-! ## Files -/

/-- Data blocks that files need together. -/
def blocksOf (files : List (List UInt8)) : Nat :=
  files.foldr (fun contents count => blocksFor contents.length + count) 0

theorem blockCount_eq (p : ImagePlan) : p.blockCount = blocksOf p.files := rfl

theorem blocksFor_le {length : Nat} (short : length ≤ blocksPerInode * blockSize) :
    blocksFor length ≤ blocksPerInode := by
  simp only [blocksPerInode, blockSize, blocksFor] at *
  omega

theorem blocksOf_le {files : List (List UInt8)}
    (short : ∀ contents ∈ files, contents.length ≤ blocksPerInode * blockSize) :
    blocksOf files ≤ files.length * blocksPerInode := by
  induction files with
  | nil => exact Nat.le_refl _
  | cons contents rest ih =>
    have here := blocksFor_le (short contents List.mem_cons_self)
    have behind := ih fun f inside => short f (List.mem_cons_of_mem _ inside)
    have total : blocksOf (contents :: rest) = blocksFor contents.length + blocksOf rest := rfl
    rw [total, List.length_cons]
    lia

theorem blocksOf_take_add_le {files : List (List UInt8)} {i : Nat} {contents : List UInt8}
    (found : files[i]? = some contents) :
    blocksOf (files.take i) + blocksFor contents.length ≤ blocksOf files := by
  induction files generalizing i with
  | nil => cases found
  | cons head rest ih =>
    have total : blocksOf (head :: rest) = blocksFor head.length + blocksOf rest := rfl
    cases i with
    | zero =>
      rw [List.getElem?_cons_zero, Option.some_inj] at found
      subst found
      have none : blocksOf ((head :: rest).take 0) = 0 := rfl
      omega
    | succ i =>
      have before : blocksOf ((head :: rest).take (i + 1)) =
          blocksFor head.length + blocksOf (rest.take i) := rfl
      have behind := ih found
      omega

/-- The inode at `start` names the blocks from `block` on, and they hold the contents. -/
structure HoldsFile (image : Array UInt8) (dataStart start block : Nat) (contents : List UInt8) :
    Prop where
  length : Has image start (ofWord contents.length)
  number : ∀ s < blocksFor contents.length, Has image (start + 4 + s * 4) (ofWord (block + s))
  data : ∀ s < blocksFor contents.length,
    Has image (dataStart + (block + s) * blockSize) ((contents.drop (s * blockSize)).take blockSize)

theorem HoldsFile.agree {image' : Array UInt8} {start : Nat} {contents : List UInt8}
    (holds : HoldsFile image dataStart start block contents)
    (short : contents.length ≤ blocksPerInode * blockSize)
    (inode : Agree image image' start (start + blockSize))
    (data : Agree image image' (dataStart + block * blockSize)
      (dataStart + (block + blocksFor contents.length) * blockSize)) :
    HoldsFile image' dataStart start block contents := by
  have few := blocksFor_le short
  constructor
  · refine holds.length.agree fun i low high => inode i low ?_
    rw [length_ofWord] at high
    lia
  · intro s inside
    refine (holds.number s inside).agree fun i low high => inode i ?_ ?_ <;>
      rw [length_ofWord] at high <;> lia
  · intro s inside
    have size := List.length_take_le blockSize (contents.drop (s * blockSize))
    refine (holds.data s inside).agree fun i low high => data i ?_ ?_ <;> lia

theorem holds_writeBlocks (image : Array UInt8) {start : Nat} {contents : List UInt8}
    (short : contents.length ≤ blocksPerInode * blockSize)
    (apart : start + blockSize ≤ dataStart + block * blockSize)
    (fits : dataStart + (block + blocksFor contents.length) * blockSize ≤ image.size) :
    HoldsFile (writeBlocks (patch image start (ofWord contents.length)) dataStart (start + 4) block
      (pieces (blocksFor contents.length) contents)) dataStart start block contents := by
  have few := blocksFor_le short
  have count := length_pieces (blocksFor contents.length) contents
  have written (s : Nat) (inside : s < blocksFor contents.length) :
      Has (writeBlocks (patch image start (ofWord contents.length)) dataStart (start + 4) block
          (pieces (blocksFor contents.length) contents)) (start + 4 + s * 4) (ofWord (block + s)) ∧
        Has (writeBlocks (patch image start (ofWord contents.length)) dataStart (start + 4) block
          (pieces (blocksFor contents.length) contents)) (dataStart + (block + s) * blockSize)
          ((contents.drop (s * blockSize)).take blockSize) := by
    refine has_writeBlocks _ (fun _ => length_le_of_mem_pieces) ?_ ?_ (getElem?_pieces inside contents)
    · lia
    · rw [count, size_patch]
      exact fits
  refine ⟨?_, fun s inside => (written s inside).1, fun s inside => (written s inside).2⟩
  have word := length_ofWord contents.length
  refine (has_patch image ?_).agree
    (agree_writeBlocks _ (fun _ => length_le_of_mem_pieces) (.inl ?_) (.inl ?_)) <;> lia

@[simp] theorem size_writeFiles (image : Array UInt8) (dataStart inode block : Nat)
    (files : List (List UInt8)) :
    (writeFiles image dataStart inode block files).size = image.size := by
  induction files generalizing image inode block with
  | nil => rfl
  | cons contents rest ih => rw [writeFiles, ih, size_writeBlocks, size_patch]

variable {inode : Nat} {files : List (List UInt8)}

theorem agree_writeFiles (image : Array UInt8)
    (short : ∀ contents ∈ files, contents.length ≤ blocksPerInode * blockSize)
    (inodes : last ≤ (1 + inode) * blockSize ∨ (1 + inode + files.length) * blockSize ≤ first)
    (data : last ≤ dataStart + block * blockSize ∨
      dataStart + (block + blocksOf files) * blockSize ≤ first) :
    Agree image (writeFiles image dataStart inode block files) first last := by
  induction files generalizing image inode block with
  | nil => exact .refl image first last
  | cons contents rest ih =>
    have few := blocksFor_le (short contents List.mem_cons_self)
    have rest_short : ∀ f ∈ rest, f.length ≤ blocksPerInode * blockSize :=
      fun f inside => short f (List.mem_cons_of_mem _ inside)
    have count := length_pieces (blocksFor contents.length) contents
    have word := length_ofWord contents.length
    have total : blocksOf (contents :: rest) = blocksFor contents.length + blocksOf rest := rfl
    rw [List.length_cons] at inodes
    rw [total] at data
    refine ((agree_patch image (ofWord contents.length) ?_).trans
      (agree_writeBlocks _ (fun _ => length_le_of_mem_pieces) ?_ ?_)).trans
      (ih _ rest_short ?_ ?_) <;> lia

/-- Every file is stored in its inode, in blocks that follow those of the files before it. -/
theorem holds_writeFiles (image : Array UInt8)
    (short : ∀ contents ∈ files, contents.length ≤ blocksPerInode * blockSize)
    (apart : (1 + inode + files.length) * blockSize ≤ dataStart)
    (fits : dataStart + (block + blocksOf files) * blockSize ≤ image.size) {i : Nat}
    {contents : List UInt8} (found : files[i]? = some contents) :
    HoldsFile (writeFiles image dataStart inode block files) dataStart ((1 + inode + i) * blockSize)
      (block + blocksOf (files.take i)) contents := by
  induction files generalizing image inode block i with
  | nil => cases found
  | cons head rest ih =>
    have head_short := short head List.mem_cons_self
    have rest_short : ∀ f ∈ rest, f.length ≤ blocksPerInode * blockSize :=
      fun f inside => short f (List.mem_cons_of_mem _ inside)
    have total : blocksOf (head :: rest) = blocksFor head.length + blocksOf rest := rfl
    rw [List.length_cons] at apart
    rw [total] at fits
    rw [writeFiles]
    cases i with
    | zero =>
      rw [List.getElem?_cons_zero, Option.some_inj] at found
      subst found
      have none : blocksOf ((head :: rest).take 0) = 0 := rfl
      rw [none]
      refine (holds_writeBlocks image head_short ?_ ?_).agree head_short
        (agree_writeFiles _ rest_short (.inl ?_) (.inl ?_))
        (agree_writeFiles _ rest_short (.inr ?_) (.inl ?_)) <;> lia
    | succ i =>
      have before : blocksOf ((head :: rest).take (i + 1)) =
          blocksFor head.length + blocksOf (rest.take i) := rfl
      rw [before, Nat.add_comm i, ← Nat.add_assoc, ← Nat.add_assoc]
      refine ih _ rest_short ?_ ?_ found
      · lia
      · rw [size_writeBlocks, size_patch]
        lia

/-! ## The finished image -/

variable {p : ImagePlan}

/-- The boot block has room for the entries, and every inode for the numbers of its file's
blocks. -/
structure Fits (p : ImagePlan) : Prop where
  entries : p.entries.length ≤ maxEntries
  files : p.files.length ≤ maxEntries
  short : ∀ contents ∈ p.files, contents.length ≤ blocksPerInode * blockSize

theorem Fits.blockCount_lt (fits : p.Fits) : p.blockCount < 2 ^ 32 := by
  have files := fits.files
  have blocks := blocksOf_le fits.short
  rw [blockCount_eq]
  lia

theorem size_build (p : ImagePlan) :
    p.build.size = (1 + p.files.length + p.blockCount) * blockSize := by
  rw [build, size_writeFiles, size_writeEntries, size_patch, Array.size_replicate]

theorem has_counts (fits : p.Fits) : Has p.build 0
    (ofWord p.entries.length ++ ofWord p.files.length ++ ofWord p.blockCount) := by
  have twelve : (ofWord p.entries.length ++ ofWord p.files.length ++ ofWord p.blockCount).length =
      12 := by
    simp only [List.length_append, length_ofWord]
  refine ((has_patch _ ?_).agree (agree_writeEntries _ p.entries (.inl ?_))).agree
    (agree_writeFiles _ fits.short (.inl ?_) (.inl ?_))
  all_goals
    simp only [twelve, Array.size_replicate]
    lia

theorem has_entry (fits : p.Fits) {i : Nat} {e : StoredEntry} (found : p.entries[i]? = some e) :
    Has p.build (directoryOffset + i * entrySize) e.bytes := by
  have few := fits.entries
  have inside := (List.getElem?_eq_some_iff.mp found).1
  have size := length_entry e
  rw [← Nat.zero_add i]
  refine (has_writeEntries _ ?_ found).agree (agree_writeFiles _ fits.short (.inl ?_) (.inl ?_))
  all_goals
    simp only [size, size_patch, Array.size_replicate]
    lia

theorem holds_file (fits : p.Fits) {i : Nat} {contents : List UInt8}
    (found : p.files[i]? = some contents) :
    HoldsFile p.build ((1 + p.files.length) * blockSize) ((1 + i) * blockSize)
      (blocksOf (p.files.take i)) contents := by
  have held (image : Array UInt8) (large : image.size =
        (1 + p.files.length + p.blockCount) * blockSize) :
      HoldsFile (writeFiles image ((1 + p.files.length) * blockSize) 0 0 p.files)
        ((1 + p.files.length) * blockSize) ((1 + 0 + i) * blockSize)
        (0 + blocksOf (p.files.take i)) contents := by
    refine holds_writeFiles image fits.short ?_ ?_ found
    · lia
    · rw [large, Nat.zero_add, ← Nat.add_mul, blockCount_eq]
  rw [Nat.add_zero, Nat.zero_add] at held
  refine held _ ?_
  rw [size_writeEntries, size_patch, Array.size_replicate]

end ImagePlan

end TerminalKernel

import Mathlib.Tactic.IntervalCases
import TerminalKernel.FileSystem

/-!
# What a file contains

A file is a sequence of bytes, each at its position: the position's part names a data block, and the
byte lies at the position's offset in that block. Reading goes block by block instead, and what it
copies are the bytes at the positions asked for, in their order (`read_spec`).
-/

namespace TerminalKernel

/-! ## Pieces of an image -/

namespace Bytes

theorem getElem?_slice (image : Array UInt8) (start : Nat) {length i : Nat} (inside : i < length) :
    (slice image start length)[i]? = image[start + i]? := by
  rw [slice_eq, List.getElem?_take, if_pos inside, List.getElem?_drop, Array.getElem?_toList]

theorem length_slice {image : Array UInt8} {start length : Nat}
    (fits : length = 0 ∨ start + length ≤ image.size) :
    (slice image start length).length = length := by
  simp only [slice_eq, List.length_take, List.length_drop, Array.length_toList]
  omega

theorem wordAt_lt (image : Array UInt8) (offset : Nat) : wordAt image offset < 2 ^ 32 := by
  have few := length_slice_le image offset 4
  have bound := toNat_lt (slice image offset 4)
  refine Nat.lt_of_lt_of_le bound ?_
  generalize (slice image offset 4).length = length at few
  interval_cases length <;> decide

end Bytes

namespace FileSystem

variable {fs : FileSystem} {inode offset room length start data slot : Nat} {bytes : List UInt8}

/-! ## Bytes by position -/

/-- The byte at a position of the blocks that an inode names. -/
def blockByte? (fs : FileSystem) (start position : Nat) : Option UInt8 :=
  match fs.dataStart start (position / blockSize) with
  | .ok data => fs.image[data + position % blockSize]?
  | .error _ => none

/-- The byte at a position of a file, which ends at the file's length. -/
def byteAt? (fs : FileSystem) (inode position : Nat) : Option UInt8 :=
  match fs.inodeStart inode with
  | .ok start =>
    if position < Bytes.wordAt fs.image start then fs.blockByte? start position else none
  | .error _ => none

/-- The file has the bytes from the position `offset` on. -/
def HoldsAt (fs : FileSystem) (inode offset : Nat) (bytes : List UInt8) : Prop :=
  ∀ i, i < bytes.length → fs.byteAt? inode (offset + i) = bytes[i]?

theorem holdsAt_nil (fs : FileSystem) (inode offset : Nat) : fs.HoldsAt inode offset [] := by
  intro i inside
  cases inside

/-- What follows on what a file has is read behind it. -/
theorem HoldsAt.append {more : List UInt8} (first : fs.HoldsAt inode offset bytes)
    (second : fs.HoldsAt inode (offset + bytes.length) more) :
    fs.HoldsAt inode offset (bytes ++ more) := by
  intro i inside
  rw [List.length_append] at inside
  by_cases here : i < bytes.length
  · rw [List.getElem?_append_left here]
    exact first i here
  · rw [List.getElem?_append_right (Nat.not_lt.mp here), ← second (i - bytes.length) (by omega)]
    congr 1
    omega

/-! ## Reading block by block -/

theorem dataStart_le (found : fs.dataStart start slot = .ok data) :
    data + blockSize ≤ fs.image.size := by
  have blocks := fs.blocks_le
  unfold dataStart at found
  split at found
  · cases found
  · dsimp only at found
    split at found
    · rename_i inCount
      cases found
      rw [← Nat.succ_mul]
      refine Nat.le_trans (Nat.mul_le_mul_right blockSize ?_) blocks
      omega
    · cases found

/-- What lies between two positions of one part is copied whole, each byte from its position. -/
theorem slice_part (found : fs.dataStart start slot = .ok data) {lo hi : Nat}
    (low : slot * blockSize ≤ lo) (high : hi ≤ (slot + 1) * blockSize) :
    (Bytes.slice fs.image (data + (lo - slot * blockSize)) (hi - lo)).length = hi - lo ∧
      ∀ i, i < hi - lo → fs.blockByte? start (lo + i) =
        (Bytes.slice fs.image (data + (lo - slot * blockSize)) (hi - lo))[i]? := by
  have inImage := dataStart_le found
  rw [Nat.succ_mul] at high
  refine ⟨Bytes.length_slice (by omega), fun i inside => ?_⟩
  have part : (lo + i) / blockSize = slot := Nat.div_eq_of_lt_le (by omega) (by
    rw [Nat.succ_mul]
    omega)
  have place : data + (lo + i) % blockSize = data + (lo - slot * blockSize) + i := by
    have split := Nat.div_add_mod (lo + i) blockSize
    rw [part, Nat.mul_comm] at split
    omega
  rw [Bytes.getElem?_slice _ _ inside, blockByte?, part, found]
  dsimp only
  rw [place]

/-- Consecutive parts are copied whole, from `first` up to `last`, and each byte is the one at its
position. -/
theorem readParts_spec (fs : FileSystem) (start first last slot count : Nat)
    (whole : (fs.readParts start first last (List.range' slot count)).failure = none) :
    (fs.readParts start first last (List.range' slot count)).bytes.length =
        min last ((slot + count) * blockSize) - max first (slot * blockSize) ∧
      ∀ i, i < (fs.readParts start first last (List.range' slot count)).bytes.length →
        fs.blockByte? start (max first (slot * blockSize) + i) =
          (fs.readParts start first last (List.range' slot count)).bytes[i]? := by
  induction count generalizing slot with
  | zero =>
    simp only [List.range'_zero, readParts, Delivery.done, List.length_nil]
    refine ⟨?_, fun i inside => by cases inside⟩
    simp only [blockSize]
    omega
  | succ count ih =>
    rw [List.range'_succ, readParts] at whole ⊢
    cases found : fs.dataStart start slot with
    | error cause =>
      rw [found] at whole
      cases whole
    | ok data =>
      rw [found] at whole
      obtain ⟨restLength, restBytes⟩ := ih (slot + 1) whole
      have piece := slice_part found (Nat.le_max_right first (slot * blockSize))
        (Nat.min_le_right last ((slot + 1) * blockSize))
      simp only [Delivery.after, List.length_append]
      generalize Bytes.slice fs.image _ _ = here at *
      generalize (fs.readParts start first last (List.range' (slot + 1) count)).bytes = rest at *
      obtain ⟨hereLength, hereBytes⟩ := piece
      have total : here.length + rest.length =
          min last ((slot + (count + 1)) * blockSize) - max first (slot * blockSize) := by
        rw [hereLength, restLength]
        simp only [blockSize]
        omega
      refine ⟨total, fun i inside => ?_⟩
      by_cases inHere : i < here.length
      · rw [List.getElem?_append_left inHere]
        exact hereBytes i (hereLength ▸ inHere)
      · -- The position lies in a later part, and the first of these starts where this one ends.
        have place : max first ((slot + 1) * blockSize) + (i - here.length) =
            max first (slot * blockSize) + i := by
          simp only [blockSize] at hereLength restLength ⊢
          omega
        rw [List.getElem?_append_right (Nat.not_lt.mp inHere), ← restBytes _ (by omega), place]

theorem readParts_partsOf (fs : FileSystem) (start : Nat) {first last : Nat} (ordered : first ≤ last)
    (whole : (fs.readParts start first last (partsOf first last)).failure = none) :
    (fs.readParts start first last (partsOf first last)).bytes.length = last - first ∧
      ∀ i, i < last - first → fs.blockByte? start (first + i) =
        (fs.readParts start first last (partsOf first last)).bytes[i]? := by
  unfold partsOf at whole ⊢
  split at whole
  · rename_i some
    rw [if_pos some]
    obtain ⟨count, bytes⟩ := fs.readParts_spec start first last _ _ whole
    have from_first : max first (first / blockSize * blockSize) = first := by
      simp only [blockSize]
      omega
    have to_last : min last ((first / blockSize + ((last - 1) / blockSize - first / blockSize + 1)) *
        blockSize) = last := by
      simp only [blockSize]
      omega
    rw [from_first, to_last] at count
    rw [from_first, count] at bytes
    exact ⟨count, bytes⟩
  · rename_i none
    rw [if_neg none]
    refine ⟨?_, fun i inside => by omega⟩
    simp only [readParts, Delivery.done, List.length_nil]
    omega

theorem failure_readParts_ne (fs : FileSystem) (start first last : Nat) (slots : List Nat) :
    (fs.readParts start first last slots).failure ≠ some .offsetPastEnd := by
  induction slots with
  | nil => simp [readParts, Delivery.done]
  | cons slot rest ih =>
    unfold readParts
    split
    · rename_i cause found
      unfold dataStart at found
      split at found
      · cases found
        simp [Delivery.fail]
      · dsimp only at found
        split at found
        · cases found
        · cases found
          simp [Delivery.fail]
    · exact ih

/-! ## Reading a file -/

theorem fileLength_lt (found : fs.fileLength inode = .ok length) : length < 2 ^ 32 := by
  unfold fileLength at found
  cases place : fs.inodeStart inode with
  | error cause =>
    rw [place] at found
    cases found
  | ok start =>
    rw [place] at found
    cases found
    exact Bytes.wordAt_lt _ _

/-- A read that succeeds copies the bytes at the positions from `offset` on, as many as the buffer has
room for and the file still has. -/
theorem read_spec (whole : (fs.read inode offset room).failure = none) :
    ∃ length, fs.fileLength inode = .ok length ∧ offset ≤ length ∧
      (fs.read inode offset room).bytes.length = min room (length - offset) ∧
      fs.HoldsAt inode offset (fs.read inode offset room).bytes := by
  unfold read at whole ⊢
  cases place : fs.inodeStart inode with
  | error cause =>
    rw [place] at whole
    cases whole
  | ok start =>
    rw [place] at whole
    dsimp only at whole ⊢
    split at whole
    · cases whole
    · rename_i within
      rw [if_neg within]
      obtain ⟨count, bytes⟩ := fs.readParts_partsOf start (Nat.le_add_right _ _) whole
      rw [Nat.add_sub_cancel_left] at count bytes
      refine ⟨Bytes.wordAt fs.image start, by rw [fileLength, place]; rfl, Nat.not_lt.mp within, count,
        fun i inside => ?_⟩
      rw [count] at inside
      have inFile : offset + i < Bytes.wordAt fs.image start := by omega
      rw [byteAt?, place]
      dsimp only
      rw [if_pos inFile]
      exact bytes i inside

theorem failure_read_ne (within : ∀ length, fs.fileLength inode = .ok length → offset ≤ length)
    (room : Nat) : (fs.read inode offset room).failure ≠ some .offsetPastEnd := by
  unfold read
  cases place : fs.inodeStart inode with
  | error cause =>
    unfold inodeStart at place
    split at place
    · cases place
    · cases place
      simp [Delivery.fail]
  | ok start =>
    have found : fs.fileLength inode = .ok (Bytes.wordAt fs.image start) := by
      rw [fileLength, place]
      rfl
    dsimp only
    rw [if_neg (Nat.not_lt.mpr (within _ found))]
    exact fs.failure_readParts_ne _ _ _ _

end FileSystem

end TerminalKernel
